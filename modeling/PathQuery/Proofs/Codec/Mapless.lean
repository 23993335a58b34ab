import PathQuery.Codec.Standard
import PathQuery.Proofs.Json.Members
import PathQuery.Proofs.Result
import PathQuery.Proofs.Value.Mapless
import PathQuery.Proofs.Xml.Grouping

namespace PathQuery

namespace Value

mutual

theorem ofJson_mapless : ∀ j : Json, Gives IsMapless (fun _ => True) (ofJson j)
  | .null | .bool _ | .string _ => rfl
  | .number text => (Gives.any (Decimal.read text)).map fun _ _ => rfl
  | .array items => (ofItems_mapless items).map fun _ => isMapless_sequence
  | .object members => (ofMembers_mapless members).map fun _ => isMapless_record
termination_by structural j => j

theorem ofItems_mapless : ∀ items : List Json,
    Gives (∀ v ∈ ·, v.IsMapless) (fun _ => True) (ofItems items)
  | [] => nofun
  | j :: items => (ofJson_mapless j).bind fun _ hv => (ofItems_mapless items).bind fun _ hvs =>
      List.forall_mem_cons.mpr ⟨hv, hvs⟩
termination_by structural items => items

theorem ofMembers_mapless : ∀ members : List (String × Json),
    Gives (∀ f ∈ ·, f.2.IsMapless) (fun _ => True) (ofMembers members)
  | [] => nofun
  | (_, j) :: members => (ofJson_mapless j).bind fun _ hv =>
      (ofMembers_mapless members).bind fun _ hfields => List.forall_mem_cons.mpr ⟨hv, hfields⟩
termination_by structural members => members

end

theorem readJson_mapless (text : String) : Gives IsMapless (fun _ => True) (readJson text) := by
  rw [readJson]
  split
  · trivial
  · exact (ofJson_mapless _).mapError fun _ _ => trivial

end Value

namespace Toml.Item

theorem gather_mapless {ms : List (String × Except NumberOutOfRange Value)}
    (h : ∀ m ∈ ms, Gives Value.IsMapless (fun _ => True) m.2) :
    Gives (∀ f ∈ ·, f.2.IsMapless) (fun _ => True) (gather ms) := by
  refine Gives.mapM fun m hm => ?_
  exact (h m (Json.of_mem_sortMembers hm)).map fun _ hv => hv

mutual

theorem value_mapless : ∀ i : Item, Gives Value.IsMapless (fun _ => True) i.value
  | .string _ | .bool _ | .moment _ => rfl
  | .integer n => (Gives.any (Decimal.read (toString n))).map fun _ _ => rfl
  | .float x => (Gives.any (Decimal.read x.text)).map fun _ _ => rfl
  | .array _ items => (itemValues_mapless items).map fun _ => Value.isMapless_sequence
  | .table _ ms => (gather_mapless (memberValues_mapless ms)).map fun _ => Value.isMapless_record
termination_by structural i => i

theorem itemValues_mapless : ∀ items : List Item,
    Gives (∀ v ∈ ·, v.IsMapless) (fun _ => True) (itemValues items)
  | [] => nofun
  | i :: items => (value_mapless i).bind fun _ hv => (itemValues_mapless items).bind fun _ hvs =>
      List.forall_mem_cons.mpr ⟨hv, hvs⟩
termination_by structural items => items

theorem memberValues_mapless : ∀ ms : List (String × Item),
    ∀ m ∈ memberValues ms, Gives Value.IsMapless (fun _ => True) m.2
  | [] => nofun
  | (_, i) :: ms => List.forall_mem_cons.mpr ⟨value_mapless i, memberValues_mapless ms⟩
termination_by structural ms => ms

end

end Toml.Item

theorem Toml.read_mapless (text : String) : Gives Value.IsMapless (fun _ => True) (read text) := by
  rw [read]
  split
  · trivial
  · exact (Item.value_mapless _).mapError fun _ _ => trivial

namespace Xml

theorem Grouping.merged_mapless {vs : List Value} (h : ∀ v ∈ vs, v.IsMapless) :
    (merged vs).IsMapless := by
  unfold merged
  split
  · exact h _ (List.mem_singleton_self _)
  · exact Value.isMapless_sequence h

theorem gathered_mapless {parts : List (String × Value)} (h : ∀ p ∈ parts, p.2.IsMapless) :
    ∀ f ∈ gathered parts, f.2.IsMapless := by
  intro f hf
  obtain ⟨name, -, rfl⟩ := List.mem_map.mp hf
  refine Grouping.merged_mapless fun v hv => ?_
  obtain ⟨p, hp, rfl⟩ := List.mem_map.mp hv
  exact h p (List.mem_filter.mp hp).1

def OpenElement.IsMapless (e : OpenElement) : Prop := ∀ p ∈ e.parts, p.2.IsMapless

namespace OpenElement

theorem ofTag_mapless (name : String) (attributes : List Attribute) :
    (ofTag name attributes).IsMapless := by
  intro p hp
  obtain ⟨a, -, rfl⟩ := List.mem_map.mp (List.mem_reverse.mp hp)
  rfl

theorem IsMapless.value {e : OpenElement} (h : e.IsMapless) : e.value.IsMapless := by
  have hfields : ∀ f ∈ (Grouping.ofParts e.parts.reverse).fields, f.2.IsMapless := by
    rw [Grouping.fields_ofParts]
    exact gathered_mapless fun p hp => h p (List.mem_reverse.mp hp)
  rw [OpenElement.value]
  split
  · rfl
  · refine Value.isMapless_record fun f hf => ?_
    split at hf
    · exact hfields f hf
    · rcases of_mem_setNamed hf with hf | hf
      · rw [hf]; rfl
      · exact hfields f hf

end OpenElement

structure Document.IsMapless (d : Document) : Prop where
  opened : ∀ e ∈ d.opened, e.IsMapless
  root : ∀ r, d.root? = some r → r.2.IsMapless

namespace Document

variable {d : Document}

theorem IsMapless.append (h : d.IsMapless) (s : String) : (d.append s).IsMapless := by
  obtain ⟨opened, root?⟩ := d
  cases opened with
  | nil => exact h
  | cons e opened =>
    obtain ⟨he, hopened⟩ := List.forall_mem_cons.mp h.opened
    exact ⟨List.forall_mem_cons.mpr ⟨he, hopened⟩, h.root⟩

theorem IsMapless.place (h : d.IsMapless) (name : String) {v : Value} (hv : v.IsMapless) :
    Gives IsMapless (fun _ => True) (d.place name v) := by
  obtain ⟨opened, root?⟩ := d
  cases opened with
  | nil =>
    cases root? with
    | none =>
      refine ⟨nofun, fun r hr => ?_⟩
      obtain rfl := Option.some.inj hr
      exact hv
    | some r => trivial
  | cons e opened =>
    obtain ⟨he, hopened⟩ := List.forall_mem_cons.mp h.opened
    have hpush : (e.push name v).IsMapless := List.forall_mem_cons.mpr ⟨hv, he⟩
    exact ⟨List.forall_mem_cons.mpr ⟨hpush, hopened⟩, h.root⟩

theorem IsMapless.step (h : d.IsMapless) (e : Event) :
    Gives IsMapless (fun _ => True) (d.step e) := by
  cases e with
  | openTag name attributes =>
    have htag := OpenElement.ofTag_mapless name attributes
    exact ⟨List.forall_mem_cons.mpr ⟨htag, h.opened⟩, h.root⟩
  | emptyTag name attributes => exact h.place name (OpenElement.ofTag_mapless name attributes).value
  | closeTag =>
    obtain ⟨opened, root?⟩ := d
    cases opened with
    | nil => trivial
    | cons e opened =>
      obtain ⟨he, hopened⟩ := List.forall_mem_cons.mp h.opened
      have hrest : (Document.mk opened root?).IsMapless := ⟨hopened, h.root⟩
      exact hrest.place e.name he.value
  | text s => exact h.append s
  | entity name =>
    rw [Document.step]
    split
    · exact h.append _
    · trivial
  | other => exact h
  | malformed => trivial

theorem IsMapless.run (h : d.IsMapless) (events : List Event) :
    Gives IsMapless (fun _ => True) (d.run events) := by
  induction events generalizing d with
  | nil => exact h
  | cons e events ih =>
    have hstep := h.step e
    rw [Document.run]
    cases hd : d.step e with
    | error fault => trivial
    | ok d' =>
      rw [hd] at hstep
      exact ih hstep

theorem IsMapless.finish (h : d.IsMapless) : Gives Value.IsMapless (fun _ => True) d.finish := by
  rw [Document.finish]
  split
  · trivial
  · next root hroot => exact Value.isMapless_record (List.forall_mem_singleton.mpr (h.root _ hroot))
  · trivial

end Document

theorem read_mapless (text : String) : Gives Value.IsMapless (fun _ => True) (read text) := by
  have hempty : Document.empty.IsMapless := ⟨nofun, nofun⟩
  have hrun := hempty.run (events text)
  rw [read, ofEvents]
  cases hd : Document.empty.run (events text) with
  | error fault => trivial
  | ok d =>
    rw [hd] at hrun
    exact (Document.IsMapless.finish hrun).mapError fun _ _ => trivial

end Xml

theorem Codecs.standard_mapless (numbers : NumberStyle) (f : Format) (text : String) :
    Gives Value.IsMapless (fun _ => True) ((Codecs.standard numbers).read f text) := by
  cases f with
  | json => exact (Value.readJson_mapless text).mapError fun _ _ => trivial
  | xml => exact Xml.read_mapless text
  | toml => exact Toml.read_mapless text
  | yaml => trivial

end PathQuery
