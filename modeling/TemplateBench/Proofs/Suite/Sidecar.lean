import TemplateBench.Suite.Expectation

/-!
What the sidecar of a fixture declares.

* `IsSidecar`: the file with the extension `yml` beside a fixture, or else the one with `yaml`.
* `Json.DeclaresRecords`: a document declares as many records as its list is long.
* `Expects`: the sidecar is a text, the text is YAML, and its document declares a number.
* `Unusable`: the sidecar is no text, or its text is no YAML. Then it declares nothing
  (`Unusable.not_expects`).
-/
namespace TemplateBench

variable {t : FileTree} {fixture path : Path} {count : Nat}

/-! ## Places -/

inductive IsSidecar (t : FileTree) (fixture : Path) : Path → Prop
  | yml : t.isFile (fixture.withExtension "yml") = true →
      IsSidecar t fixture (fixture.withExtension "yml")
  | yaml : t.isFile (fixture.withExtension "yml") = false →
      t.isFile (fixture.withExtension "yaml") = true →
      IsSidecar t fixture (fixture.withExtension "yaml")

theorem sidecar?_eq_some_iff : sidecar? t fixture = some path ↔ IsSidecar t fixture path := by
  constructor
  · intro h
    unfold sidecar? at h
    cases hyml : t.isFile (fixture.withExtension "yml") with
    | true =>
      rw [List.find?_cons_of_pos hyml] at h
      cases h
      exact .yml hyml
    | false =>
      rw [List.find?_cons_of_neg (by simp [hyml]), List.find?_singleton] at h
      obtain ⟨hyaml, hpath⟩ := Option.ite_none_right_eq_some.mp h
      cases hpath
      exact .yaml hyml hyaml
  · rintro (hyml | ⟨hyml, hyaml⟩)
    · exact List.find?_cons_of_pos hyml
    · rw [sidecar?, List.find?_cons_of_neg (by simp [hyml]), List.find?_cons_of_pos hyaml]

/-! ## Documents -/

/-- A list declares its own length, and a mapping that of the list at `parsed_sample`. -/
inductive Json.DeclaresRecords : Json → Nat → Prop
  | list (records : List Json) : DeclaresRecords (.array records) records.length
  | sample {members : List (String × Json)} {records : List Json} :
      members.lookup "parsed_sample" = some (.array records) →
      DeclaresRecords (.object members) records.length

theorem declaredCount_eq_some_iff {document : Json} :
    declaredCount document = some count ↔ document.DeclaresRecords count := by
  constructor
  · intro h
    unfold declaredCount at h
    split at h
    · cases h
      exact .list _
    · split at h
      · rename_i hsample
        cases h
        exact .sample hsample
      · cases h
    · cases h
  · rintro (records | hsample)
    · rfl
    · simp [declaredCount, hsample]

theorem expectedCount_eq_ok_some_iff :
    expectedCount t path = .ok (some count) ↔
      ∃ text document, t.read path = .ok text ∧ Yaml.read text = .ok document ∧
        document.DeclaresRecords count := by
  unfold expectedCount
  cases t.read path with
  | error e => simp
  | ok text => cases hdocument : Yaml.read text <;> simp [hdocument, declaredCount_eq_some_iff]

/-! ## Sidecars -/

/-- The sidecar of a fixture holds a YAML document that declares so many records. -/
def Expects (t : FileTree) (fixture : Path) (count : Nat) : Prop :=
  ∃ path text document, IsSidecar t fixture path ∧ t.read path = .ok text ∧
    Yaml.read text = .ok document ∧ document.DeclaresRecords count

/-- The sidecar of a fixture cannot be read, or it holds no YAML. -/
inductive Unusable (t : FileTree) (fixture : Path) : Prop
  | unreadable {path : Path} {e : FileError} :
      IsSidecar t fixture path → t.read path = .error e → Unusable t fixture
  | malformed {path : Path} {text : String} {e : Yaml.Malformed} :
      IsSidecar t fixture path → t.read path = .ok text → Yaml.read text = .error e →
      Unusable t fixture

theorem expects_iff :
    Expects t fixture count ↔
      ∃ path, sidecar? t fixture = some path ∧ expectedCount t path = .ok (some count) := by
  simp only [Expects, sidecar?_eq_some_iff, expectedCount_eq_ok_some_iff, exists_and_left]

theorem unusable_iff :
    Unusable t fixture ↔
      ∃ path e, sidecar? t fixture = some path ∧ expectedCount t path = .error e := by
  constructor
  · intro h
    cases h with
    | @unreadable path e hpath he =>
      exact ⟨path, .file e, sidecar?_eq_some_iff.mpr hpath, by simp only [expectedCount, he]⟩
    | @malformed path text e hpath htext he =>
      exact ⟨path, .malformedExpectation path e, sidecar?_eq_some_iff.mpr hpath,
        by simp only [expectedCount, htext, he]⟩
  · rintro ⟨path, e, hpath, he⟩
    have hsidecar := sidecar?_eq_some_iff.mp hpath
    unfold expectedCount at he
    cases htext : t.read path with
    | error e' => exact .unreadable hsidecar htext
    | ok text =>
      cases hdocument : Yaml.read text with
      | error e' => exact .malformed hsidecar htext hdocument
      | ok document => simp [htext, hdocument] at he

theorem Unusable.not_expects (h : Unusable t fixture) : ¬ Expects t fixture count := by
  intro hexpects
  obtain ⟨path, e, hpath, he⟩ := unusable_iff.mp h
  obtain ⟨path', hpath', hcount⟩ := expects_iff.mp hexpects
  cases hpath.symm.trans hpath'
  cases he.symm.trans hcount

end TemplateBench
