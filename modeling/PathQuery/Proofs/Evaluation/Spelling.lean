import PathQuery.Proofs.Catalog.Faults
import PathQuery.Proofs.Catalog.Typing
import PathQuery.Proofs.Evaluation.Simulation
import PathQuery.Proofs.Text.Fold
import PathQuery.Proofs.Value.Named

namespace PathQuery

def NamesDiffer (names : List String) : Prop :=
  names.Pairwise fun a b => Text.sameName a b = false

namespace Value

mutual

def IsUnambiguous : Value → Prop
  | .record fields => NamesDiffer (fields.map (·.1)) ∧ FieldsUnambiguous fields
  | .map entries => NamesDiffer (entries.map (·.1.text)) ∧ EntriesUnambiguous entries
  | .sequence items => ItemsUnambiguous items
  | _ => True

def FieldsUnambiguous : Fields → Prop
  | [] => True
  | (_, v) :: fields => v.IsUnambiguous ∧ FieldsUnambiguous fields

def EntriesUnambiguous : Entries → Prop
  | [] => True
  | (_, v) :: entries => v.IsUnambiguous ∧ EntriesUnambiguous entries

def ItemsUnambiguous : List Value → Prop
  | [] => True
  | v :: items => v.IsUnambiguous ∧ ItemsUnambiguous items

end

variable {v : Value}

theorem itemsUnambiguous_iff {items : List Value} :
    ItemsUnambiguous items ↔ ∀ v ∈ items, v.IsUnambiguous := by
  induction items with
  | nil => simp [ItemsUnambiguous]
  | cons v items ih => rw [ItemsUnambiguous, ih, List.forall_mem_cons]

theorem fieldsUnambiguous_iff {fields : Fields} :
    FieldsUnambiguous fields ↔ ∀ f ∈ fields, f.2.IsUnambiguous := by
  induction fields with
  | nil => simp [FieldsUnambiguous]
  | cons f fields ih => rw [FieldsUnambiguous, ih, List.forall_mem_cons]

theorem entriesUnambiguous_iff {entries : Entries} :
    EntriesUnambiguous entries ↔ ∀ f ∈ Entries.texts entries, f.2.IsUnambiguous := by
  induction entries with
  | nil => simp [EntriesUnambiguous, Entries.texts]
  | cons e entries ih =>
    rw [EntriesUnambiguous, ih, Entries.texts, Entries.texts, List.map_cons, List.forall_mem_cons]

theorem isUnambiguous_of_isScalar (h : v.IsScalar) : v.IsUnambiguous := by
  cases v with
  | record | map | sequence => exact h.elim
  | _ => trivial

end Value

section Lookup

variable {α : Type} {entries : List (String × α)} {name name' : String}

theorem named?_of_differ (h : NamesDiffer (entries.map (·.1))) (name : String) :
    named? entries name = (entries.find? fun e => Text.sameName e.1 name).map (·.2) := by
  induction entries with
  | nil => rfl
  | cons e rest ih =>
    obtain ⟨hfirst, hrest⟩ := List.pairwise_cons.mp h
    have ih := ih hrest
    by_cases hname : e.1 = name
    · subst hname
      have hself : Text.sameName e.1 e.1 = true := Text.sameName_iff.mpr rfl
      simp [named?, hself]
    by_cases hsame : Text.sameName e.1 name = true
    · -- Another entry of that very name would be the same as this one up to letter case.
      have hnone : rest.find? (fun e => e.1 == name) = none := by
        refine List.find?_eq_none.mpr fun f hf hn => ?_
        have hdiffer := hfirst f.1 (List.mem_map_of_mem hf)
        rw [beq_iff_eq.mp hn, hsame] at hdiffer
        cases hdiffer
      simp [named?, hname, hsame, hnone]
    · simpa [named?, hname, hsame] using ih

theorem named?_congr (h : NamesDiffer (entries.map (·.1)))
    (hname : Text.sameName name name' = true) : named? entries name = named? entries name' := by
  have hfold := Text.sameName_iff.mp hname
  have hsame : (fun e : String × α => Text.sameName e.1 name) =
      fun e => Text.sameName e.1 name' := by
    funext e
    rw [Bool.eq_iff_iff, Text.sameName_iff, Text.sameName_iff, hfold]
  rw [named?_of_differ h, named?_of_differ h, hsame]

end Lookup

namespace Value.IsUnambiguous

variable {v w : Value} {name name' : String}

theorem lookup?_congr (h : v.IsUnambiguous) (hname : Text.sameName name name' = true) :
    v.lookup? name = v.lookup? name' := by
  cases v with
  | record fields => exact named?_congr h.1 hname
  | map entries =>
    have htexts : (Entries.texts entries).map (·.1) = entries.map (·.1.text) := by
      simp [Entries.texts, Function.comp_def]
    exact named?_congr (htexts ▸ h.1) hname
  | _ => rfl

theorem lookup? (h : v.IsUnambiguous) (hw : v.lookup? name = some w) : w.IsUnambiguous := by
  cases v with
  | record fields =>
    obtain ⟨f, hf, rfl⟩ := exists_mem_of_named? hw
    exact fieldsUnambiguous_iff.mp h.2 f hf
  | map entries =>
    obtain ⟨f, hf, rfl⟩ := exists_mem_of_named? hw
    exact entriesUnambiguous_iff.mp h.2 f hf
  | _ => cases hw

theorem call {f : Builtin} {codecs : Codecs} {params : List Value} {declared : Nat}
    (hf : f.isReader = false) (h : v.IsUnambiguous)
    (hw : f.call codecs v params declared = .ok w) : w.IsUnambiguous := by
  have hyields := Builtin.call_yields hw
  cases hr : f.signature.returns with
  | bool | number | string =>
    rw [hr] at hyields
    cases w with
    | record | map | sequence => cases hyields
    | _ => trivial
  | element =>
    rw [hr] at hyields
    obtain ⟨vs, rfl, hmem⟩ := hyields
    exact itemsUnambiguous_iff.mp h w hmem
  | unknown => exact absurd hr (Builtin.returns_ne_unknown hf)

end Value.IsUnambiguous

def SameUnambiguous (v v' : Value) : Prop := v' = v ∧ v.IsUnambiguous

namespace SameUnambiguous

variable {v v' : Value} {vs vs' : List Value}

theorem forall₂_iff :
    List.Forall₂ SameUnambiguous vs vs' ↔ vs' = vs ∧ Value.ItemsUnambiguous vs := by
  rw [Value.itemsUnambiguous_iff, @eq_comm _ vs' vs, ← List.forall₂_eq_eq_eq, and_comm,
    ← List.forall₂_and_left]
  exact ⟨.imp fun _ _ h => ⟨h.2, h.1.symm⟩, .imp fun _ _ h => ⟨h.2.symm, h.1⟩⟩

theorem isSimulation (codecs : Codecs) :
    IsSimulation codecs (Text.sameName · · = true) (·.isReader = false) SameUnambiguous where
  shape := by
    rintro _ v ⟨rfl, h⟩
    cases v with
    | sequence items => exact .list (forall₂_iff.mpr ⟨rfl, h⟩)
    | record | map => exact .fields trivial trivial
    | _ => exact .scalar trivial
  scalar h := ⟨rfl, Value.isUnambiguous_of_isScalar h⟩
  list h := by
    obtain ⟨rfl, hvs⟩ := forall₂_iff.mp h
    exact ⟨rfl, hvs⟩
  lookup := by
    rintro _ v name name' ⟨rfl, h⟩ hname
    rw [h.lookup?_congr hname]
    cases hw : v.lookup? name' with
    | none => exact .none
    | some w => exact .some ⟨rfl, h.lookup? hw⟩
  call := by
    rintro f _ v _ params declared hf ⟨rfl, h⟩ hparams
    obtain ⟨rfl, -⟩ := forall₂_iff.mp hparams
    cases hw : f.call codecs v params declared with
    | error e => exact .error rfl
    | ok w => exact .ok ⟨rfl, h.call hf hw⟩

end SameUnambiguous

theorem Query.eval_respelled (codecs : Codecs) {q q' : Query} {current root : Value}
    (hq : q.Respelled (Text.sameName · · = true) q')
    (hcalls : CallsOnly (·.isReader = false) q.callees)
    (hcurrent : current.IsUnambiguous) (hroot : root.IsUnambiguous) :
    Alike Failure.kind Eq (q.eval codecs current root) (q'.eval codecs current root) := by
  have halike := Query.eval_alike (SameUnambiguous.isSimulation codecs) ⟨rfl, hroot⟩ q hq hcalls
    ⟨rfl, hcurrent⟩
  exact halike.mono fun _ _ h => h.1.symm

theorem Query.eval_respelled_umlaut :
    let rows (rows size : String) : Query := .path ⟨.root, false, false, [.field rows,
      .filter (.ofPath ⟨.current, true, true,
        [.field size, .call (.known .equal) [.number .zero "0"]]⟩),
      .call (.known .first) [], .field size]⟩
    let d : Value := .record [("rows", .sequence [.record [("größe", .number .zero),
      ("name", .string "a")]])]
    (rows "rows" "größe").Respelled (Text.sameName · · = true) (rows "ROWS" "GRÖßE") ∧
      d.IsUnambiguous ∧ (rows "ROWS" "GRÖßE").eval (.none .bare) d d = .ok (.number .zero) := by
  intro rows d
  have hrows : Text.sameName "rows" "ROWS" = true := by decide +kernel
  have hsize : Text.sameName "größe" "GRÖßE" = true := by decide +kernel
  have hq : (rows "rows" "größe").Respelled (Text.sameName · · = true) (rows "ROWS" "GRÖßE") :=
    .path (.intro (.cons (.field hrows) (.cons (.filter (.intro (.cons (.path (.intro
      (.cons (.field hsize) (.cons (.call (.cons (.number _ _) .nil)) .nil)))) .nil)))
      (.cons (.call .nil) (.cons (.field hsize) .nil)))))
  have hnames : NamesDiffer ["größe", "name"] :=
    .cons (List.forall_mem_singleton.mpr (by decide +kernel)) (List.pairwise_singleton _ _)
  have hd : d.IsUnambiguous :=
    ⟨List.pairwise_singleton _ _, ⟨⟨hnames, trivial, trivial, trivial⟩, trivial⟩, trivial⟩
  have hcalls : CallsOnly (·.isReader = false) (rows "rows" "größe").callees := by
    intro f hf
    rcases List.mem_cons.mp hf with hf | hf
    · cases hf; rfl
    · cases List.mem_singleton.mp hf; rfl
  have heval : (rows "rows" "größe").eval (.none .bare) d d = .ok (.number .zero) := rfl
  have halike := Query.eval_respelled (.none .bare) hq hcalls hd hd
  rw [heval] at halike
  refine ⟨hq, hd, ?_⟩
  generalize (rows "ROWS" "GRÖßE").eval (.none .bare) d d = result at halike ⊢
  cases halike with
  | ok h => exact congrArg Except.ok h.symm

end PathQuery
