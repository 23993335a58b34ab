import PathQuery.Proofs.Xml.Translation

namespace PathQuery.Xml

def Event.isOpenTag : Event → Bool
  | .openTag _ _ => true
  | _ => false

def Event.depthAfter (depth : Nat) : Event → Nat
  | .openTag _ _ => depth + 1
  | .closeTag => depth - 1
  | _ => depth

def Event.ends (depth : Nat) : Event → Nat
  | .emptyTag _ _ => if depth = 0 then 1 else 0
  | .closeTag => if depth = 1 then 1 else 0
  | _ => 0

def topElements (depth : Nat) : List Event → Nat
  | [] => 0
  | e :: events => e.ends depth + topElements (e.depthAfter depth) events

def ClosesOpen (depth : Nat) (events : List Event) : Prop :=
  ∀ before, before <+: events →
    before.count .closeTag ≤ depth + before.countP Event.isOpenTag

def KnowsEntities (events : List Event) : Prop :=
  ∀ name, .entity name ∈ events → (named? name).isSome = true

structure IsDocument (events : List Event) : Prop where
  closes : ClosesOpen 0 events
  closed : events.count .closeTag = events.countP Event.isOpenTag
  single : topElements 0 events = 1
  known : KnowsEntities events

variable {depth : Nat} {e : Event} {events : List Event}

theorem depthAfter_add (h : e = .closeTag → 0 < depth) :
    e.depthAfter depth + [e].count .closeTag = depth + [e].countP Event.isOpenTag := by
  cases e with
  | closeTag => exact Nat.succ_pred_eq_of_pos (h rfl)
  | _ => rfl

theorem count_cons (e : Event) (before : List Event) :
    (e :: before).count .closeTag = [e].count .closeTag + before.count .closeTag := by
  rw [← List.singleton_append, List.count_append]

theorem countP_cons (e : Event) (before : List Event) : (e :: before).countP Event.isOpenTag =
    [e].countP Event.isOpenTag + before.countP Event.isOpenTag := by
  rw [← List.singleton_append, List.countP_append]

theorem closesOpen_nil : ClosesOpen depth [] := by
  intro before h
  obtain rfl := List.prefix_nil.mp h
  exact Nat.zero_le _

theorem closesOpen_cons : ClosesOpen depth (e :: events) ↔
    (e = .closeTag → 0 < depth) ∧ ClosesOpen (e.depthAfter depth) events := by
  constructor
  · intro h
    have hclose : e = .closeTag → 0 < depth := by
      rintro rfl
      exact h [.closeTag] ((List.prefix_cons_inj _).mpr List.nil_prefix)
    refine ⟨hclose, fun before hb => ?_⟩
    have hcons := h (e :: before) ((List.prefix_cons_inj e).mpr hb)
    have hdepth := depthAfter_add hclose
    rw [count_cons, countP_cons] at hcons
    omega
  · rintro ⟨hclose, h⟩ before hb
    rcases List.prefix_cons_iff.mp hb with rfl | ⟨before, rfl, hbefore⟩
    · exact Nat.zero_le _
    · have hrest := h before hbefore
      have hdepth := depthAfter_add hclose
      rw [count_cons, countP_cons]
      omega

theorem knowsEntities_cons : KnowsEntities (e :: events) ↔
    (∀ name, e = .entity name → (named? name).isSome = true) ∧ KnowsEntities events := by
  constructor
  · intro h
    exact ⟨fun name he => h name (he ▸ List.mem_cons_self),
      fun name hn => h name (List.mem_cons_of_mem _ hn)⟩
  · rintro ⟨hfirst, h⟩ name hn
    rcases List.mem_cons.mp hn with he | hn
    · exact hfirst name he.symm
    · exact h name hn

namespace Document

variable {d d' : Document}

def roots (d : Document) : Nat := d.root?.toList.length

theorem exists_place (name : String) (v : Value) : (∃ d', d.place name v = .ok d') ↔
    d.roots + (if d.opened.length = 0 then 1 else 0) ≤ 1 := by
  obtain ⟨opened, root?⟩ := d
  cases opened <;> cases root? <;> simp [place, roots]

theorem place_counts {name : String} {v : Value} (h : d.place name v = .ok d') :
    d'.opened.length = d.opened.length ∧
      d'.roots = d.roots + if d.opened.length = 0 then 1 else 0 := by
  obtain ⟨opened, root?⟩ := d
  cases opened <;> cases root? <;> cases h <;> exact ⟨rfl, rfl⟩

theorem append_counts (s : String) :
    (d.append s).opened.length = d.opened.length ∧ (d.append s).roots = d.roots := by
  obtain ⟨opened, root?⟩ := d
  cases opened <;> exact ⟨rfl, rfl⟩

theorem roots_le (d : Document) : d.roots ≤ 1 := by
  obtain ⟨opened, root?⟩ := d
  cases root? <;> simp [roots]

theorem step_closeTag (o : OpenElement) (opened : List OpenElement)
    (root? : Option (String × Value)) : step ⟨o :: opened, root?⟩ .closeTag =
      place ⟨opened, root?⟩ o.name o.value := rfl

theorem ends_closeTag (n : Nat) : Event.closeTag.ends (n + 1) = if n = 0 then 1 else 0 := by
  simp [Event.ends]

theorem exists_step (hm : e ≠ .malformed) : (∃ d', d.step e = .ok d') ↔
    (e = .closeTag → 0 < d.opened.length) ∧
      (∀ name, e = .entity name → (named? name).isSome = true) ∧
      d.roots + e.ends d.opened.length ≤ 1 := by
  have hroots := d.roots_le
  cases e with
  | openTag name attributes => simpa [step, Event.ends] using hroots
  | emptyTag name attributes => simpa [step, Event.ends] using d.exists_place name _
  | closeTag =>
    obtain ⟨opened, root?⟩ := d
    cases opened with
    | nil => simp [step]
    | cons o opened =>
      rw [step_closeTag, exists_place, List.length_cons, ends_closeTag]
      simp [roots]
  | text s => simpa [step, Event.ends] using hroots
  | entity name =>
    cases hc : named? name with
    | none => simp [step, hc]
    | some c => simpa [step, hc, Event.ends] using hroots
  | other => simpa [step, Event.ends] using hroots
  | malformed => exact absurd rfl hm

theorem step_counts (h : d.step e = .ok d') :
    d'.opened.length = e.depthAfter d.opened.length ∧
      d'.roots = d.roots + e.ends d.opened.length := by
  cases e with
  | openTag name attributes => obtain rfl := Except.ok.inj h; exact ⟨rfl, rfl⟩
  | emptyTag name attributes => exact place_counts h
  | closeTag =>
    obtain ⟨opened, root?⟩ := d
    cases opened with
    | nil => cases h
    | cons o opened =>
      rw [step_closeTag] at h
      rw [List.length_cons, ends_closeTag]
      exact place_counts h
  | text s => obtain rfl := Except.ok.inj h; exact append_counts s
  | entity name =>
    cases hc : named? name with
    | none => simp [step, hc] at h
    | some c =>
      simp only [step, hc, Except.ok.injEq] at h
      exact h ▸ append_counts c.toString
  | other => obtain rfl := Except.ok.inj h; exact ⟨rfl, rfl⟩
  | malformed => cases h

theorem run_counts (h : d.run events = .ok d') :
    d'.opened.length + events.count .closeTag =
        d.opened.length + events.countP Event.isOpenTag ∧
      d'.roots = d.roots + topElements d.opened.length events := by
  induction events generalizing d with
  | nil => obtain rfl := Except.ok.inj h; exact ⟨rfl, rfl⟩
  | cons e events ih =>
    obtain ⟨d₁, hstep, hrun⟩ := run_cons.mp h
    have hm : e ≠ .malformed := by
      rintro rfl
      cases hstep
    obtain ⟨hclose, -, -⟩ := (exists_step hm).mp ⟨d₁, hstep⟩
    obtain ⟨hdepth, hroots⟩ := step_counts hstep
    obtain ⟨hdepth', hroots'⟩ := ih hrun
    have hadd := depthAfter_add hclose
    rw [count_cons, countP_cons, topElements]
    rw [hdepth] at hdepth' hroots'
    omega

theorem exists_run (hm : .malformed ∉ events) : (∃ d', d.run events = .ok d') ↔
    ClosesOpen d.opened.length events ∧ KnowsEntities events ∧
      d.roots + topElements d.opened.length events ≤ 1 := by
  induction events generalizing d with
  | nil => simpa [run, topElements, KnowsEntities, closesOpen_nil] using d.roots_le
  | cons e events ih =>
    obtain ⟨he, hm⟩ := not_or.mp (mt List.mem_cons.mpr hm)
    have hstep := exists_step (d := d) (Ne.symm he)
    rw [closesOpen_cons, knowsEntities_cons, topElements]
    constructor
    · rintro ⟨d', h⟩
      obtain ⟨d₁, h₁, hrun⟩ := run_cons.mp h
      obtain ⟨hclose, hknown, -⟩ := hstep.mp ⟨d₁, h₁⟩
      obtain ⟨hdepth, hroots⟩ := step_counts h₁
      obtain ⟨hcloses, hknowns, hsum⟩ := (ih hm).mp ⟨d', hrun⟩
      rw [hdepth] at hcloses hsum
      exact ⟨⟨hclose, hcloses⟩, ⟨hknown, hknowns⟩, by omega⟩
    · rintro ⟨⟨hclose, hcloses⟩, ⟨hknown, hknowns⟩, hsum⟩
      obtain ⟨d₁, h₁⟩ := hstep.mpr ⟨hclose, hknown, by omega⟩
      obtain ⟨hdepth, hroots⟩ := step_counts h₁
      rw [← hdepth] at hcloses hsum
      obtain ⟨d', h⟩ := (ih hm).mpr ⟨hcloses, hknowns, by omega⟩
      exact ⟨d', run_cons.mpr ⟨d₁, h₁, h⟩⟩

theorem exists_finish : (∃ v, d.finish = .ok v) ↔ d.opened.length = 0 ∧ d.roots = 1 := by
  obtain ⟨opened, root?⟩ := d
  cases opened <;> cases root? <;> simp [finish, roots]

end Document

def EndsContent (events : List Event) : Prop := ∀ e ∈ events.head?, e = .closeTag

theorem endsContent_closeTag : EndsContent (.closeTag :: events) := by
  intro e he
  exact (Option.some.inj he).symm

theorem Content.eq_nil_of_events {c : Content} {rest rest' : List Event}
    (h : c.events ++ rest = nil.events ++ rest') (hr : EndsContent rest') : c = nil := by
  have hends : EndsContent (c.events ++ rest) := by
    rw [h]
    exact hr
  cases c with
  | nil => rfl
  | _ => simp [events, EndsContent] at hends

theorem Content.events_unique {c c' : Content} {rest rest' : List Event} (hr : EndsContent rest)
    (hr' : EndsContent rest') (h : c.events ++ rest = c'.events ++ rest') :
    c = c' ∧ rest = rest' := by
  induction c generalizing c' rest rest' with
  | nil =>
    obtain rfl := Content.eq_nil_of_events h.symm hr
    exact ⟨rfl, h⟩
  | element name attributes content next ihc ih =>
    cases c' with
    | nil => cases Content.eq_nil_of_events h hr'
    -- Both inner contents end at an end tag, so they are the same and so is what follows them.
    | element name' attributes' content' next' =>
      simp only [events, List.cons_append, List.append_assoc, List.cons.injEq,
        Event.openTag.injEq] at h
      obtain ⟨⟨rfl, rfl⟩, h⟩ := h
      obtain ⟨rfl, hnext⟩ := ihc endsContent_closeTag endsContent_closeTag h
      obtain ⟨rfl, rfl⟩ := ih hr hr' (List.cons.inj hnext).2
      exact ⟨rfl, rfl⟩
    | _ => simp [events] at h
  | single name attributes next ih =>
    cases c' with
    | nil => cases Content.eq_nil_of_events h hr'
    | single name' attributes' next' =>
      simp only [events, List.cons_append, List.cons.injEq, Event.emptyTag.injEq] at h
      obtain ⟨⟨rfl, rfl⟩, h⟩ := h
      obtain ⟨rfl, rfl⟩ := ih hr hr' h
      exact ⟨rfl, rfl⟩
    | _ => simp [events] at h
  | text s next ih =>
    cases c' with
    | nil => cases Content.eq_nil_of_events h hr'
    | text s' next' =>
      simp only [events, List.cons_append, List.cons.injEq, Event.text.injEq] at h
      obtain ⟨rfl, h⟩ := h
      obtain ⟨rfl, rfl⟩ := ih hr hr' h
      exact ⟨rfl, rfl⟩
    | _ => simp [events] at h
  | entity name next ih =>
    cases c' with
    | nil => cases Content.eq_nil_of_events h hr'
    | entity name' next' =>
      simp only [events, List.cons_append, List.cons.injEq, Event.entity.injEq] at h
      obtain ⟨rfl, h⟩ := h
      obtain ⟨rfl, rfl⟩ := ih hr hr' h
      exact ⟨rfl, rfl⟩
    | _ => simp [events] at h
  | other next ih =>
    cases c' with
    | nil => cases Content.eq_nil_of_events h hr'
    | other next' =>
      obtain ⟨rfl, rfl⟩ := ih hr hr' (List.cons.inj h).2
      exact ⟨rfl, rfl⟩
    | _ => simp [events] at h

theorem endsContent_nil : EndsContent [] := by
  intro e he
  cases he

theorem Content.events_injective {c c' : Content} (h : c.events = c'.events) : c = c' := by
  have happend : c.events ++ [] = c'.events ++ [] := by rw [h]
  exact (Content.events_unique endsContent_nil endsContent_nil happend).1

theorem exists_ofEvents (hm : .malformed ∉ events) :
    (∃ v, ofEvents events = .ok v) ↔ IsDocument events := by
  have hrun := Document.exists_run (d := .empty) hm
  have hempty : Document.empty.opened.length = 0 ∧ Document.empty.roots = 0 := ⟨rfl, rfl⟩
  rw [hempty.1, hempty.2] at hrun
  simp only [ofEvents_eq_ok]
  constructor
  · rintro ⟨v, d, hd, hv⟩
    obtain ⟨hopened, hroots⟩ := Document.exists_finish.mp ⟨v, hv⟩
    obtain ⟨hdepth, hsum⟩ := Document.run_counts hd
    obtain ⟨hcloses, hknown, -⟩ := hrun.mp ⟨d, hd⟩
    rw [hempty.1] at hdepth hsum
    rw [hempty.2] at hsum
    exact ⟨hcloses, by omega, by omega, hknown⟩
  · intro h
    have hsingle : 0 + topElements 0 events = 1 := (Nat.zero_add _).trans h.single
    obtain ⟨d, hd⟩ := hrun.mpr ⟨h.closes, h.known, Nat.le_of_eq hsingle⟩
    obtain ⟨hdepth, hsum⟩ := Document.run_counts hd
    have hclosed := h.closed
    rw [hempty.1] at hdepth hsum
    rw [hempty.2, hsingle] at hsum
    have hopened : d.opened.length = 0 := by omega
    obtain ⟨v, hv⟩ := Document.exists_finish.mpr ⟨hopened, hsum⟩
    exact ⟨v, d, hd, hv⟩

theorem ofEvents_translates (hm : .malformed ∉ events) (hn : NoTextElement events) :
    (IsDocument events → ∃ c : Content, c.events = events ∧
      (∀ c' : Content, c'.events = events → c' = c) ∧ c.children.length = 1 ∧
      ofEvents events = .ok (.record c.children)) ∧
    (¬IsDocument events → ∃ fault, ofEvents events = .error fault) := by
  have hexists := exists_ofEvents hm
  constructor
  · intro h
    obtain ⟨v, hv⟩ := hexists.mpr h
    obtain ⟨c, hc, hlength, rfl⟩ := exists_content hn hv
    exact ⟨c, hc, fun c' hc' => Content.events_injective (hc'.trans hc.symm), hlength, hv⟩
  · intro h
    cases he : ofEvents events with
    | ok v => exact absurd (hexists.mp ⟨v, he⟩) h
    | error fault => exact ⟨fault, rfl⟩

def orderContent : Content :=
  .element "order" [("id", "7")]
    (.element "item" [] (.text "tea " (.entity "amp" (.text " milk" .nil)))
      (.text " fragile " (.single "item" [] (.other .nil)))) .nil

theorem orderContent_isDocument : IsDocument orderContent.events where
  closes := by simp [orderContent, Content.events, closesOpen_cons, closesOpen_nil, Event.depthAfter]
  closed := by decide
  single := by decide
  known := by simp [orderContent, Content.events, KnowsEntities, named?]

theorem ofEvents_translates_order : ofEvents orderContent.events =
    .ok (.record [("order", .record [("@id", .string "7"),
      ("item", .sequence [.string "tea & milk", .string ""]), ("#text", .string "fragile")])]) := by
  have hm : .malformed ∉ orderContent.events := by decide
  have hn : NoTextElement orderContent.events := by
    simp [orderContent, Content.events, NoTextElement, Event.name?]
  obtain ⟨c, -, hunique, -, hv⟩ := (ofEvents_translates hm hn).1 orderContent_isDocument
  obtain rfl := hunique orderContent rfl
  exact hv

end PathQuery.Xml
