/-!
Parts of a text between two of its bytes in UTF-8.

* `slice?`: such a part, if both bytes are where a character begins or the text ends.
* `cut?`: the parts between given bytes.
* `slice?_append`: a part is found by the number of bytes before it and up to its end.
-/
namespace TemplateBench.Text

/-! ## Bytes -/

def byteLength (cs : List Char) : Nat := (String.ofList cs).utf8ByteSize

theorem utf8ByteSize_ofList (cs : List Char) :
    (String.ofList cs).utf8ByteSize = byteLength cs := rfl

@[simp]
theorem byteLength_nil : byteLength [] = 0 := rfl

@[simp]
theorem byteLength_append (cs ds : List Char) :
    byteLength (cs ++ ds) = byteLength cs + byteLength ds := by
  rw [byteLength, String.ofList_append, String.utf8ByteSize_append]
  rfl

@[simp]
theorem byteLength_cons (c : Char) (cs : List Char) :
    byteLength (c :: cs) = c.utf8Size + byteLength cs := by
  rw [← List.singleton_append, byteLength_append, byteLength, ← String.singleton_eq_ofList,
    String.utf8ByteSize_singleton]

/-! ## Parts -/

/-- The part of a text from one byte up to another. -/
def slice? (body : String) (start stop : Nat) : Option String := do
  let first ← body.pos? ⟨start⟩
  let last ← body.pos? ⟨stop⟩
  if first ≤ last then some (body.extract first last) else none

/-- The parts of a text between given bytes, from a first byte on. -/
def cut? (body : String) (start : Nat) : List Nat → Option (List String)
  | [] => (slice? body start body.utf8ByteSize).map ([·])
  | stop :: stops => do
    let part ← slice? body start stop
    (cut? body (stop + 1) stops).map (part :: ·)

theorem isValid_byteLength (front back : List Char) :
    (⟨byteLength front⟩ : String.Pos.Raw).IsValid (String.ofList (front ++ back)) := by
  rw [String.Pos.Raw.isValid_ofList]
  exact ⟨front.length, by rw [List.take_left]; rfl⟩

theorem pos?_eq_some {body : String} {p : String.Pos.Raw} (h : p.IsValid body) :
    body.pos? p = some (body.pos p h) := by
  have hslice := String.Pos.Raw.isValidForSlice_eq_true_iff.mpr h.toSlice
  rw [String.pos?, String.Slice.pos?, dif_pos hslice]
  rfl

theorem slice?_append (front part back : List Char) :
    slice? (String.ofList (front ++ (part ++ back))) (byteLength front)
      (byteLength front + byteLength part) = some (String.ofList part) := by
  have hfirst := isValid_byteLength front (part ++ back)
  have hlast := isValid_byteLength (front ++ part) back
  rw [byteLength_append, List.append_assoc] at hlast
  have hle : (String.pos _ _ hfirst) ≤ (String.pos _ _ hlast) := by
    rw [String.Pos.le_iff]
    simp [String.Pos.Raw.le_iff]
  rw [slice?, pos?_eq_some hfirst, pos?_eq_some hlast]
  simp only [Option.bind_eq_bind, Option.bind_some, if_pos hle, Option.some.injEq]
  rw [← String.toByteArray_inj, String.toByteArray_extract, String.offset_pos, String.offset_pos,
    String.ofList_append, String.ofList_append, String.toByteArray_append,
    String.toByteArray_append]
  -- The bytes of what comes before are skipped, and those of what follows are not reached.
  calc _ = ((String.ofList part).toByteArray ++ (String.ofList back).toByteArray).extract 0
        (byteLength part) := ByteArray.extract_append_size_add (i := 0)
    _ = (String.ofList part).toByteArray := ByteArray.extract_append_eq_left rfl

end TemplateBench.Text
