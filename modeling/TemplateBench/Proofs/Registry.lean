import TemplateBench.Proofs.Json.Members
import TemplateBench.Registry

/-!
Registries after any number of registrations.

* `Registration`: a call that registers a mode. `register_eq_ok_iff`, `register_eq_error_iff`: it
  succeeds exactly if its label is one.
* `Registry.afterAll`: the registry after several calls, of which some may fail.
* `Registry.Follows`: labels stand in the order in which they first occur in a history, and the mode
  of a label is the last one there. `Follows.after`: a call carries this on to a history with the
  call in it, and `Follows.afterAll` any number of calls.
* `afterAll_answers`: so all that a registry answers is told by what was registered.
-/
namespace TemplateBench
open Text

/-! ## Calls -/

structure Registration where
  label : String
  engine : Engine
  variant : Option Variant

namespace Registration

def mode (c : Registration) : Mode := ⟨c.engine, c.variant⟩

/-- The label is not empty and has no white space. -/
def Accepted (c : Registration) : Prop :=
  c.label ≠ "" ∧ ∀ char ∈ c.label.toList, isBlank char = false

theorem isLabel_iff (c : Registration) : isLabel c.label = true ↔ c.Accepted := by
  simp [isLabel, Accepted]

instance (c : Registration) : Decidable c.Accepted :=
  decidable_of_iff (isLabel c.label = true) c.isLabel_iff

end Registration

/-- The labels of accepted calls with their modes. -/
def registered (calls : List Registration) : List (String × Mode) :=
  (calls.filter fun c => decide c.Accepted).map fun c => (c.label, c.mode)

namespace Registry

variable {r r' : Registry} {c : Registration} {label : String} {m : Mode}
  {history : List (String × Mode)}

/-- The registry after a call; one that fails leaves it as it is. -/
def after (r : Registry) (c : Registration) : Registry :=
  (r.register c.label c.engine c.variant).toOption.getD r

def afterAll (r : Registry) (calls : List Registration) : Registry := calls.foldl after r

theorem register_eq_ok_iff :
    r.register c.label c.engine c.variant = .ok r' ↔
      c.Accepted ∧ r' = ⟨put c.label c.mode r.modes⟩ := by
  unfold register
  by_cases h : c.Accepted
  · simp [c.isLabel_iff, h, Registration.mode, eq_comm]
  · simp [c.isLabel_iff, h]

theorem register_eq_error_iff {e : RegistryError} :
    r.register c.label c.engine c.variant = .error e ↔
      ¬ c.Accepted ∧ e = .invalidLabel c.label := by
  unfold register
  by_cases h : c.Accepted
  · simp [c.isLabel_iff, h]
  · simp [c.isLabel_iff, h, eq_comm]

theorem after_of_accepted (h : c.Accepted) : r.after c = ⟨put c.label c.mode r.modes⟩ := by
  rw [after, register_eq_ok_iff.mpr ⟨h, rfl⟩]
  rfl

theorem after_of_not_accepted (h : ¬ c.Accepted) : r.after c = r := by
  rw [after, register_eq_error_iff.mpr ⟨h, rfl⟩]
  rfl

/-! ## Putting a mode under a label -/

theorem map_put (label : String) (m : Mode) (modes : List (String × Mode)) :
    (put label m modes).map (·.1) =
      if label ∈ modes.map (·.1) then modes.map (·.1) else modes.map (·.1) ++ [label] := by
  induction modes with
  | nil => simp [put]
  | cons entry rest ih =>
    obtain ⟨l, old⟩ := entry
    by_cases hl : l = label
    · simp [put, hl]
    · rw [put, if_neg hl, List.map_cons, ih]
      by_cases hm : label ∈ rest.map (·.1) <;> simp [hm, Ne.symm hl]

theorem lookup_cons_eq (label l : String) (m : Mode) (modes : List (String × Mode)) :
    ((label, m) :: modes).lookup l = if l = label then some m else modes.lookup l := by
  rw [List.lookup_cons]
  by_cases h : l = label
  · simp [h]
  · have hne : (l == label) = false := by simpa using h
    rw [hne, if_neg h]

theorem lookup_put (label l : String) (m : Mode) (modes : List (String × Mode)) :
    (put label m modes).lookup l = if l = label then some m else modes.lookup l := by
  induction modes with
  | nil => exact lookup_cons_eq label l m []
  | cons entry rest ih =>
    obtain ⟨first, old⟩ := entry
    by_cases hf : first = label
    · rw [put, if_pos hf, hf, lookup_cons_eq, lookup_cons_eq]
      split <;> rfl
    · rw [put, if_neg hf, lookup_cons_eq, lookup_cons_eq, ih]
      by_cases h : l = first
      · have hne : l ≠ label := h ▸ hf
        simp [h, hf]
      · simp [h]

/-! ## Histories -/

/-- The labels of a registry are those of a history, in the order in which they first occur there,
and the mode of a label is the one that occurs last. -/
structure Follows (r : Registry) (history : List (String × Mode)) : Prop where
  distinct : r.labels.Nodup
  labels : r.labels = (history.map (·.1)).eraseDups
  get : ∀ label, r.get? label = history.reverse.lookup label

/-- One more element is new, or has occurred before. -/
theorem eraseDups_concat (labels : List String) (label : String) :
    (labels ++ [label]).eraseDups =
      if label ∈ labels then labels.eraseDups else labels.eraseDups ++ [label] := by
  rw [List.eraseDups_append]
  by_cases h : label ∈ labels
  · simp [List.removeAll, h]
  · have hone : [label].eraseDups = [label] := by rw [List.eraseDups_cons]; rfl
    simp [List.removeAll, h, hone]

theorem Follows.empty : Registry.empty.Follows [] where
  distinct := List.nodup_nil
  labels := rfl
  get _ := rfl

theorem Follows.after (h : r.Follows history) (c : Registration) :
    (r.after c).Follows (history ++ registered [c]) := by
  by_cases hc : c.Accepted
  · have hregistered : registered [c] = [(c.label, c.mode)] := by simp [registered, hc]
    have hmem : c.label ∈ r.modes.map (·.1) ↔ c.label ∈ history.map (·.1) := by
      have hlabels := h.labels
      rw [Registry.labels] at hlabels
      rw [hlabels, List.mem_eraseDups]
    have hput : (r.after c).labels =
        if c.label ∈ r.labels then r.labels else r.labels ++ [c.label] := by
      rw [after_of_accepted hc]
      exact map_put c.label c.mode r.modes
    rw [hregistered]
    refine ⟨?distinct, ?labels, fun l => ?get⟩
    case distinct =>
      rw [hput]
      split
      · exact h.distinct
      · rename_i hnew
        exact List.nodup_append.mpr ⟨h.distinct, List.nodup_singleton _, by
          rintro l hl l' hl' rfl
          rw [List.mem_singleton.mp hl'] at hl
          exact hnew hl⟩
    case labels =>
      rw [hput, List.map_append, List.map_singleton, eraseDups_concat, ← h.labels]
      simp only [Registry.labels, hmem]
    case get =>
      have hget := h.get l
      rw [get?] at hget
      rw [after_of_accepted hc, get?, lookup_put, hget, List.reverse_append, List.reverse_singleton,
        List.singleton_append, lookup_cons_eq]
  · have hregistered : registered [c] = [] := by simp [registered, hc]
    rwa [after_of_not_accepted hc, hregistered, List.append_nil]

theorem registered_cons (c : Registration) (calls : List Registration) :
    registered (c :: calls) = registered [c] ++ registered calls := by
  rw [registered, ← List.singleton_append, List.filter_append, List.map_append]
  rfl

theorem Follows.afterAll (h : r.Follows history) (calls : List Registration) :
    (r.afterAll calls).Follows (history ++ registered calls) := by
  induction calls generalizing r history with
  | nil => simpa [registered, Registry.afterAll] using h
  | cons c rest ih =>
    rw [registered_cons, ← List.append_assoc]
    exact ih (h.after c)

/-- The calls that make the registry of the built-in modes. -/
def builtInCalls : List Registration :=
  builtIn.modes.map fun e => ⟨e.1, e.2.engine, e.2.variant⟩

theorem Follows.builtIn : Registry.builtIn.Follows Registry.builtIn.modes :=
  -- The built-in modes could have been registered one after the other.
  Follows.empty.afterAll builtInCalls

/-! ## Answers -/

/-- What a registry answers, told by a history of what was registered. -/
structure Answers (r : Registry) (history : List (String × Mode)) : Prop where
  /-- Every label once, in the order in which they were registered first. -/
  distinct : r.labels.Nodup
  labels : r.labels = (history.map (·.1)).eraseDups
  /-- The mode that a label was registered with last. -/
  get : ∀ label, r.get? label = history.reverse.lookup label
  resolve : ∀ label m, r.resolve label = .ok m ↔ history.reverse.lookup label = some m
  unknown : ∀ label, (∃ e, r.resolve label = .error e) ↔ label ∉ history.map (·.1)
  message : ∀ label e, r.resolve label = .error e →
    e.message = "Unknown mode '" ++ label ++ "'. Available modes: " ++ ", ".intercalate r.labels
  size : r.size = r.labels.length
  isEmpty : r.isEmpty = true ↔ r.labels = []
  /-- The modes that are gone through one after the other. -/
  modes : r.modes = r.labels.filterMap fun label => (r.get? label).map (label, ·)

theorem resolve_eq_ok_iff : r.resolve label = .ok m ↔ r.get? label = some m := by
  unfold resolve
  cases r.get? label <;> simp

theorem resolve_eq_error_iff {e : RegistryError} :
    r.resolve label = .error e ↔ r.get? label = none ∧ e = .unknownMode label r.labels := by
  unfold resolve
  cases r.get? label <;> simp [eq_comm]

theorem get?_eq_none_iff : r.get? label = none ↔ label ∉ r.labels := by
  rw [get?, List.lookup_eq_none_iff, labels]
  simp only [List.mem_map, not_exists, not_and, bne_iff_ne, ne_eq]
  exact forall₂_congr fun e _ => not_congr eq_comm

theorem modes_eq (h : r.labels.Nodup) :
    r.modes = r.labels.filterMap fun label => (r.get? label).map (label, ·) := by
  have hentry : ∀ e ∈ r.modes, (r.get? e.1).map (e.1, ·) = some e := fun e he => by
    rw [get?, lookup_of_mem h he]
    rfl
  rw [labels, List.filterMap_map]
  exact (List.filterMap_some.symm.trans (List.filterMap_congr hentry).symm)

theorem Follows.answers (h : r.Follows history) : r.Answers history where
  distinct := h.distinct
  labels := h.labels
  get := h.get
  resolve label m := by rw [resolve_eq_ok_iff, h.get]
  unknown label := by
    simp only [resolve_eq_error_iff, exists_and_left, exists_eq, and_true]
    rw [get?_eq_none_iff, h.labels, List.mem_eraseDups]
  message label e he := by
    obtain ⟨-, rfl⟩ := resolve_eq_error_iff.mp he
    rfl
  size := by rw [Registry.labels, List.length_map, size]
  isEmpty := by rw [Registry.isEmpty, List.isEmpty_iff, Registry.labels, List.map_eq_nil_iff]
  modes := modes_eq h.distinct

/-- **Registries.** From no modes or from the built-in ones, and after any calls, a call fails
exactly if its label is empty or has white space, and then changes nothing. All answers are told by
the modes at the beginning and those of the calls that succeeded. -/
theorem afterAll_answers {start : Registry} (h : start = .empty ∨ start = .builtIn)
    (calls : List Registration) :
    (start.afterAll calls).Answers (start.modes ++ registered calls) ∧
    ∀ c : Registration,
      ((∃ e, (start.afterAll calls).register c.label c.engine c.variant = .error e) ↔
        c.label = "" ∨ ∃ char ∈ c.label.toList, isBlank char = true) ∧
      (∀ e, (start.afterAll calls).register c.label c.engine c.variant = .error e →
        e = .invalidLabel c.label ∧ start.afterAll (calls ++ [c]) = start.afterAll calls) ∧
      (∀ r, (start.afterAll calls).register c.label c.engine c.variant = .ok r →
        start.afterAll (calls ++ [c]) = r ∧
        ∃ m, r.get? c.label = some m ∧ m.engine = c.engine ∧ m.kind = c.engine.kind ∧
          m.variant = c.variant) := by
  have hstart : start.Follows start.modes := by
    rcases h with rfl | rfl
    · exact Follows.empty
    · exact Follows.builtIn
  have hconcat : ∀ c, start.afterAll (calls ++ [c]) = (start.afterAll calls).after c := fun c => by
    rw [afterAll, List.foldl_append]
    rfl
  refine ⟨(hstart.afterAll calls).answers,
    fun c => ⟨?fails, fun e he => ?unchanged, fun r hr => ?put⟩⟩
  case fails =>
    simp only [register_eq_error_iff, exists_and_left, exists_eq, and_true]
    simp [Registration.Accepted, or_iff_not_imp_left]
  case unchanged =>
    obtain ⟨hc, he⟩ := register_eq_error_iff.mp he
    exact ⟨he, by rw [hconcat, after_of_not_accepted hc]⟩
  case put =>
    obtain ⟨hc, rfl⟩ := register_eq_ok_iff.mp hr
    refine ⟨by rw [hconcat, after_of_accepted hc], c.mode, ?_, rfl, rfl, rfl⟩
    rw [get?, lookup_put, if_pos rfl]

/-- A label that is registered anew keeps its place, and a label with a blank is refused. -/
def sampleCalls : List Registration :=
  [⟨"Raw", EngineKind.ttp.engine, none⟩, ⟨"TTP Raw", EngineKind.ttp.engine, none⟩,
    ⟨"TTP_Table", EngineKind.jinja2.engine, some .detail⟩]

theorem afterAll_answers_sample :
    (Registry.builtIn.afterAll sampleCalls).labels =
        ["TextFSM_Table", "TextFSM_Detail", "TTP_Table", "TTP_Detail", "Jinja2", "Raw"] ∧
      (Registry.builtIn.afterAll sampleCalls).get? "TTP_Table" =
        some ⟨EngineKind.jinja2.engine, some .detail⟩ ∧
      ∃ e, (Registry.builtIn.afterAll sampleCalls).resolve "TTP Raw" = .error e := by
  have h := (afterAll_answers (.inr rfl) sampleCalls).1
  refine ⟨?_, ?_, (h.unknown _).mpr (by decide)⟩
  · rw [h.labels]
    decide
  · rw [h.get]
    rfl

end Registry

end TemplateBench
