import Tournament.Spec.Draft
import Mathlib.Tactic.SplitIfs

/-!
# Evaluating what is read of a spec

Decoding a text step by step takes a time that grows with a power of its length.  Where every byte
is a character of its own it is enough to compare the characters with the bytes
(`Text.chars_eq_toList`), and what is read of such a spec can be found by evaluation
(`Spec.exists_of_parse`).
-/

namespace Tournament

/-- The characters of a text, which is decoded only if its bytes are not all characters. -/
def Text.chars (s : String) : List Char :=
  let bytes := s.toByteArray.data.toList
  let cs := bytes.map Char.ofUInt8
  if cs.flatMap String.utf8EncodeChar = bytes then cs else s.toList

theorem Text.chars_eq_toList (s : String) : chars s = s.toList := by
  unfold chars
  dsimp only
  split_ifs with hencoded
  · have hbytes : (String.ofList (s.toByteArray.data.toList.map Char.ofUInt8)).toByteArray =
        s.toByteArray := by
      rw [String.toByteArray_ofList, List.utf8Encode, hencoded]
      apply ByteArray.ext
      rw [List.data_toByteArray, Array.toArray_toList]
    have hs := String.toByteArray_inj.mp hbytes
    exact String.toList_ofList.symm.trans (congrArg String.toList hs)
  · rfl

namespace Spec

def linesOf (cs : List Char) : List Line :=
  numberFrom 1 (Text.splitBy (· = '\n') cs)

def readChars (cs : List Char) : Except SpecError Reading :=
  if linesOf cs = [] then .error .emptySpec
  else
    let (d, problems) := ({} : Draft).takeAll (itemsFrom .start (linesOf cs))
    .ok (d.finish problems)

theorem lines_eq_linesOf (input : String) : lines input = linesOf (Text.chars input) := by
  rw [Text.chars_eq_toList]
  rfl

theorem readChars_eq_parse (input : String) : readChars (Text.chars input) = parse input := by
  rw [Text.chars_eq_toList]
  rfl

theorem exists_of_parse (input : String) {P : Reading → Bool}
    (h : (readChars (Text.chars input)).toOption.any P = true) :
    ∃ reading, parse input = .ok reading ∧ P reading = true := by
  rw [readChars_eq_parse] at h
  exact exists_of_any h

end Spec
end Tournament
