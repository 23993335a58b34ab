import PathQuery.Proofs.Xml.Grouping

namespace PathQuery.Xml

inductive Content where
  | nil
  | element (name : String) (attributes : List Attribute) (content rest : Content)
  | single (name : String) (attributes : List Attribute) (rest : Content)
  | text (s : String) (rest : Content)
  | entity (name : String) (rest : Content)
  | other (rest : Content)

def attributeParts (attributes : List Attribute) : List (String × Value) :=
  attributes.map fun a => ("@" ++ a.1, .string a.2)

def textField (text : String) : Fields :=
  if (Text.trim text).isEmpty then [] else [("#text", .string (Text.trim text))]

def elementValue (attributes : List Attribute) (children : List (String × Value))
    (text : String) : Value :=
  match attributeParts attributes ++ children with
  | [] => .string text
  | parts => .record (gathered parts ++ textField text)

def entityText (name : String) : String := ((named? name).map Char.toString).getD ""

namespace Content

def events : Content → List Event
  | nil => []
  | element name attributes content rest =>
    .openTag name attributes :: (content.events ++ .closeTag :: rest.events)
  | single name attributes rest => .emptyTag name attributes :: rest.events
  | text s rest => .text s :: rest.events
  | entity name rest => .entity name :: rest.events
  | other rest => .other :: rest.events

def pieces : Content → String
  | nil => ""
  | element _ _ _ rest | single _ _ rest | other rest => rest.pieces
  | text s rest => s ++ rest.pieces
  | entity name rest => entityText name ++ rest.pieces

def children : Content → List (String × Value)
  | nil => []
  | element name attributes content rest =>
    (name, elementValue attributes content.children content.pieces) :: rest.children
  | single name attributes rest => (name, elementValue attributes [] "") :: rest.children
  | text _ rest | entity _ rest | other rest => rest.children

def append (c c' : Content) : Content :=
  match c with
  | nil => c'
  | element name attributes content rest => element name attributes content (rest.append c')
  | single name attributes rest => single name attributes (rest.append c')
  | text s rest => text s (rest.append c')
  | entity name rest => entity name (rest.append c')
  | other rest => other (rest.append c')

theorem events_append (c c' : Content) : (c.append c').events = c.events ++ c'.events := by
  induction c with
  | nil => rfl
  | element name attributes content rest _ ih => simp [append, events, ih]
  | single name attributes rest ih => simp [append, events, ih]
  | text s rest ih => simp [append, events, ih]
  | entity name rest ih => simp [append, events, ih]
  | other rest ih => simp [append, events, ih]

theorem pieces_append (c c' : Content) : (c.append c').pieces = c.pieces ++ c'.pieces := by
  induction c with
  | nil => simp [append, pieces]
  | element name attributes content rest _ ih => simp [append, pieces, ih]
  | single name attributes rest ih => simp [append, pieces, ih]
  | text s rest ih => simp [append, pieces, ih, String.append_assoc]
  | entity name rest ih => simp [append, pieces, ih, String.append_assoc]
  | other rest ih => simp [append, pieces, ih]

theorem children_append (c c' : Content) :
    (c.append c').children = c.children ++ c'.children := by
  induction c with
  | nil => rfl
  | element name attributes content rest _ ih => simp [append, children, ih]
  | single name attributes rest ih => simp [append, children, ih]
  | text s rest ih => simp [append, children, ih]
  | entity name rest ih => simp [append, children, ih]
  | other rest ih => simp [append, children, ih]

end Content

def Event.name? : Event → Option String
  | .openTag name _ | .emptyTag name _ => some name
  | _ => none

theorem Content.exists_event_of_mem {c : Content} {p : String × Value} (h : p ∈ c.children) :
    ∃ e ∈ c.events, e.name? = some p.1 := by
  induction c with
  | nil => cases h
  | element name attributes content rest _ ih =>
    rcases List.mem_cons.mp h with rfl | h
    · exact ⟨_, List.mem_cons_self, rfl⟩
    · obtain ⟨e, he, hp⟩ := ih h
      exact ⟨e, by simp [events, he], hp⟩
  | single name attributes rest ih =>
    rcases List.mem_cons.mp h with rfl | h
    · exact ⟨_, List.mem_cons_self, rfl⟩
    · obtain ⟨e, he, hp⟩ := ih h
      exact ⟨e, List.mem_cons_of_mem _ he, hp⟩
  | text _ rest ih | entity _ rest ih | other rest ih =>
    obtain ⟨e, he, hp⟩ := ih h
    exact ⟨e, List.mem_cons_of_mem _ he, hp⟩

theorem attribute_ne_text (name : String) : "@" ++ name ≠ "#text" := by
  intro h
  have hlist := congrArg String.toList h
  rw [String.toList_append] at hlist
  exact absurd (List.cons.inj hlist).1 (by decide)

theorem text_not_mem_gathered {attributes : List Attribute} {children : List (String × Value)}
    (h : ∀ p ∈ children, p.1 ≠ "#text") :
    "#text" ∉ (gathered (attributeParts attributes ++ children)).map (·.1) := by
  intro hmem
  obtain ⟨f, hf, hname⟩ := List.mem_map.mp hmem
  obtain ⟨name, hnames, rfl⟩ := List.mem_map.mp hf
  obtain ⟨p, hp, rfl⟩ := List.mem_map.mp (List.mem_eraseDups.mp hnames)
  rcases List.mem_append.mp hp with ha | hc
  · obtain ⟨a, -, rfl⟩ := List.mem_map.mp ha
    exact attribute_ne_text a.1 hname
  · exact h p hc hname

theorem value_eq_elementValue {e : OpenElement} {attributes : List Attribute}
    {children : List (String × Value)} (he : e.parts.reverse = attributeParts attributes ++ children)
    (h : ∀ p ∈ children, p.1 ≠ "#text") : e.value = elementValue attributes children e.text := by
  have hnew : "#text" ∉ (gathered (attributeParts attributes ++ children)).map (·.1) :=
    text_not_mem_gathered h
  rw [OpenElement.value, elementValue, ← List.isEmpty_reverse, he]
  cases hparts : attributeParts attributes ++ children with
  | nil => rfl
  | cons p parts =>
    rw [hparts] at hnew
    simp only [List.isEmpty_cons, Bool.false_eq_true, if_false, Grouping.fields_ofParts, textField]
    split
    · rw [List.append_nil]
    · rw [Fields.insert, setNamed_of_not_mem hnew]

structure Frame where
  name : String
  attributes : List Attribute
  content : Content

namespace Frame

def opened (f : Frame) : OpenElement :=
  ⟨f.name, (attributeParts f.attributes ++ f.content.children).reverse, f.content.pieces⟩

def events (f : Frame) : List Event := .openTag f.name f.attributes :: f.content.events

def whole (f : Frame) : Content := .element f.name f.attributes f.content .nil

end Frame

structure Reading where
  top : Content
  frames : List Frame

namespace Reading

def events (r : Reading) : List Event := r.top.events ++ r.frames.reverse.flatMap Frame.events

def extend (r : Reading) (c : Content) : Reading :=
  match r.frames with
  | [] => { r with top := r.top.append c }
  | f :: frames => { r with frames := { f with content := f.content.append c } :: frames }

theorem events_extend (r : Reading) (c : Content) : (r.extend c).events = r.events ++ c.events := by
  obtain ⟨top, frames⟩ := r
  cases frames with
  | nil => simp [extend, events, Content.events_append]
  | cons f frames => simp [extend, events, Frame.events, Content.events_append]

theorem events_openTag (top : Content) (frames : List Frame) (name : String)
    (attributes : List Attribute) : (Reading.mk top (⟨name, attributes, .nil⟩ :: frames)).events =
      (Reading.mk top frames).events ++ [.openTag name attributes] := by
  simp [events, Frame.events, Content.events]

theorem events_closeTag (top : Content) (f : Frame) (frames : List Frame) :
    ((Reading.mk top frames).extend f.whole).events =
      (Reading.mk top (f :: frames)).events ++ [.closeTag] := by
  rw [events_extend]
  simp [events, Frame.events, Frame.whole, Content.events]

end Reading

-- The machine holds the values of what has been read.
structure Represents (d : Document) (r : Reading) : Prop where
  opened : d.opened = r.frames.map Frame.opened
  root : d.root?.toList = r.top.children

namespace Represents

variable {d d' : Document} {r : Reading} {c : Content}

theorem empty : Represents .empty ⟨.nil, []⟩ := ⟨rfl, rfl⟩

theorem append {s : String} (h : Represents d r) (hc : c.children = []) (hs : c.pieces = s) :
    Represents (d.append s) (r.extend c) := by
  obtain rfl := hs
  obtain ⟨opened, root?⟩ := d
  obtain ⟨top, frames⟩ := r
  obtain ⟨rfl, hroot⟩ := h
  cases frames with
  | nil =>
    exact ⟨rfl, by simpa [Document.append, Reading.extend, Content.children_append, hc] using hroot⟩
  | cons f frames =>
    refine ⟨?_, hroot⟩
    simp [Document.append, Reading.extend, Frame.opened, OpenElement.append,
      Content.children_append, Content.pieces_append, hc]

theorem place (h : Represents d r) {name : String} {v : Value} (hc : c.children = [(name, v)])
    (ht : c.pieces = "") (hp : d.place name v = .ok d') : Represents d' (r.extend c) := by
  obtain ⟨opened, root?⟩ := d
  obtain ⟨top, frames⟩ := r
  obtain ⟨rfl, hroot⟩ := h
  cases frames with
  | nil =>
    cases root? with
    | some root => cases hp
    | none =>
      obtain rfl := Except.ok.inj hp
      exact ⟨rfl, by simp [Reading.extend, Content.children_append, hc, ← hroot]⟩
  | cons f frames =>
    obtain rfl := Except.ok.inj hp
    refine ⟨?_, hroot⟩
    simp [Reading.extend, Frame.opened, OpenElement.push, Content.children_append,
      Content.pieces_append, hc, ht]

end Represents

def NoTextElement (events : List Event) : Prop := ∀ e ∈ events, e.name? ≠ some "#text"

theorem NoTextElement.children {c : Content} (h : NoTextElement c.events) :
    ∀ p ∈ c.children, p.1 ≠ "#text" := by
  intro p hp heq
  obtain ⟨e, he, hname⟩ := c.exists_event_of_mem hp
  exact h e he (hname.trans (congrArg some heq))

theorem ofTag_value (name : String) (attributes : List Attribute) :
    (OpenElement.ofTag name attributes).value = elementValue attributes [] "" :=
  value_eq_elementValue (by simp [OpenElement.ofTag, attributeParts]) nofun

theorem Frame.opened_value {f : Frame} (h : NoTextElement f.content.events) :
    f.opened.value = elementValue f.attributes f.content.children f.content.pieces :=
  value_eq_elementValue (List.reverse_reverse _) h.children

theorem Document.append_empty (d : Document) : d.append "" = d := by
  obtain ⟨opened, root?⟩ := d
  cases opened with
  | nil => rfl
  | cons e opened => simp [append, OpenElement.append]

theorem Represents.close {d d' : Document} {top : Content} {f : Frame} {frames : List Frame}
    (h : Represents d ⟨top, f :: frames⟩) (hn : NoTextElement f.content.events)
    (hs : d.step .closeTag = .ok d') : Represents d' ((Reading.mk top frames).extend f.whole) := by
  obtain ⟨opened, root?⟩ := d
  obtain ⟨rfl, hroot⟩ := h
  have hplace : Document.place ⟨frames.map Frame.opened, root?⟩ f.name f.opened.value = .ok d' := hs
  rw [Frame.opened_value hn] at hplace
  have hinner : Represents ⟨frames.map Frame.opened, root?⟩ ⟨top, frames⟩ := ⟨rfl, hroot⟩
  exact hinner.place rfl rfl hplace

theorem Represents.step {d d' : Document} {r : Reading} {e : Event} (h : Represents d r)
    (hn : NoTextElement r.events) (hs : d.step e = .ok d') :
    ∃ r', Represents d' r' ∧ r'.events = r.events ++ [e] := by
  cases e with
  | openTag name attributes =>
    obtain rfl := Except.ok.inj hs
    refine ⟨⟨r.top, ⟨name, attributes, .nil⟩ :: r.frames⟩, ⟨?_, h.root⟩,
      Reading.events_openTag r.top r.frames name attributes⟩
    simp [h.opened, Frame.opened, OpenElement.ofTag, attributeParts, Content.children,
      Content.pieces]
  | emptyTag name attributes =>
    rw [Document.step, ofTag_value] at hs
    exact ⟨r.extend (.single name attributes .nil), h.place rfl rfl hs, r.events_extend _⟩
  | closeTag =>
    obtain ⟨top, frames⟩ := r
    cases frames with
    | nil =>
      have hopened : d.opened = [] := h.opened
      simp [Document.step, hopened] at hs
    | cons f frames =>
      have hf : NoTextElement f.content.events := by
        intro e he
        exact hn e (by simp [Reading.events, Frame.events, he])
      exact ⟨_, h.close hf hs, Reading.events_closeTag top f frames⟩
  | text s =>
    obtain rfl := Except.ok.inj hs
    have hpieces : (Content.text s .nil).pieces = s := String.append_empty
    exact ⟨_, h.append rfl hpieces, r.events_extend _⟩
  | entity name =>
    cases hc : named? name with
    | none => simp [Document.step, hc] at hs
    | some c =>
      simp only [Document.step, hc, Except.ok.injEq] at hs
      have hpieces : (Content.entity name .nil).pieces = c.toString := by
        simp [Content.pieces, entityText, hc]
      exact ⟨_, hs ▸ h.append rfl hpieces, r.events_extend _⟩
  | other =>
    obtain rfl := Except.ok.inj hs
    have happend : Represents (d.append "") (r.extend (.other .nil)) := h.append rfl rfl
    rw [Document.append_empty] at happend
    exact ⟨_, happend, r.events_extend _⟩
  | malformed => cases hs

theorem Document.run_cons {d d' : Document} {e : Event} {events : List Event} :
    d.run (e :: events) = .ok d' ↔ ∃ d₁, d.step e = .ok d₁ ∧ d₁.run events = .ok d' := by
  rw [run]
  cases d.step e <;> simp

theorem ofEvents_eq_ok {events : List Event} {v : Value} :
    ofEvents events = .ok v ↔ ∃ d, Document.empty.run events = .ok d ∧ d.finish = .ok v := by
  unfold ofEvents
  cases Document.empty.run events <;> simp

theorem Represents.run {d d' : Document} {r : Reading} {events : List Event} (h : Represents d r)
    (hn : NoTextElement (r.events ++ events)) (hs : d.run events = .ok d') :
    ∃ r', Represents d' r' ∧ r'.events = r.events ++ events := by
  induction events generalizing d r with
  | nil =>
    obtain rfl := Except.ok.inj hs
    exact ⟨r, h, (List.append_nil _).symm⟩
  | cons e events ih =>
    obtain ⟨d₁, hstep, hrun⟩ := Document.run_cons.mp hs
    have hread : NoTextElement r.events := fun e he => hn e (List.mem_append_left _ he)
    obtain ⟨r₁, h₁, he⟩ := h.step hread hstep
    rw [List.append_cons, ← he] at hn
    obtain ⟨r', h', he'⟩ := ih h₁ hn hrun
    exact ⟨r', h', by rw [he', he, List.append_assoc, List.singleton_append]⟩

theorem exists_content {events : List Event} {v : Value} (hn : NoTextElement events)
    (h : ofEvents events = .ok v) :
    ∃ c : Content, c.events = events ∧ c.children.length = 1 ∧ v = .record c.children := by
  obtain ⟨d, hd, hv⟩ := ofEvents_eq_ok.mp h
  obtain ⟨⟨top, frames⟩, hr, he⟩ := Represents.empty.run hn hd
  obtain ⟨opened, root?⟩ := d
  obtain ⟨rfl, hroot⟩ := hr
  cases frames with
  | cons f frames => cases hv
  | nil =>
    cases root? with
    | none => cases hv
    | some root =>
      obtain rfl := Except.ok.inj hv
      have hchildren : top.children = [root] := hroot.symm
      exact ⟨top, by simpa [Reading.events, Content.events] using he, by rw [hchildren]; rfl,
        by rw [hchildren]⟩

end PathQuery.Xml
