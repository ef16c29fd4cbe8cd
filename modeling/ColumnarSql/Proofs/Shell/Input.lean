import ColumnarSql.Shell.Session
import Mathlib.Data.List.Basic

/-!
# Bytes and the texts they stand for

The shell is given bytes.  It finds the ends of lines among them before it knows whether they are
text, and that is safe: in the bytes of a text the code of a line feed stands for a line feed and
for nothing else, since a character outside ASCII is encoded in bytes from 128 on
(`Shell.mem_of_mem_encode`).

So texts can be put into lines and come back.  A text stands in one line if there is no line feed in
it, and it comes back if it does not end with a carriage return, which would be taken for a part of
the line end (`Shell.IsLine`).  `Shell.lines_inputOf` says so of any list of such texts, and
`Shell.decode?_encode` of a single one.
-/

namespace ColumnarSql
namespace Shell

/-- The texts that the lines of an input stand for, and nothing for a line that is not UTF-8. -/
def lines (input : List UInt8) : List (Option String) :=
  (splitLines input).map lineText?

/-- The bytes of a text in UTF-8. -/
def encode (text : String) : List UInt8 :=
  text.toUTF8.data.toList

/-! ## Texts -/

/-- The bytes of a text stand for the text. -/
theorem decode?_encode (text : String) : decode? (encode text) = some text := by
  have hbytes : (⟨(encode text).toArray⟩ : ByteArray) = text.toByteArray := rfl
  simp only [decode?, hbytes, String.fromUTF8?, dif_pos text.isValidUTF8]
  rfl

/-- A text is encoded character by character. -/
theorem encode_eq_flatMap (text : String) :
    encode text = text.toList.flatMap String.utf8EncodeChar := by
  have hbytes : text.toUTF8 = (text.toList.flatMap String.utf8EncodeChar).toByteArray := by
    conv_lhs => rw [← String.ofList_toList (s := text)]
    rfl
  rw [encode, hbytes, List.toList_data_toByteArray]

/-- A byte of a character is its code, or at least 128. -/
theorem eq_or_le_of_mem_utf8EncodeChar {c : Char} {byte : UInt8}
    (h : byte ∈ String.utf8EncodeChar c) : byte.toNat = c.toNat ∨ 128 ≤ byte.toNat := by
  have hcode : c.val.toNat = c.toNat := rfl
  simp only [String.utf8EncodeChar, hcode] at h
  split at h
  · next hascii =>
    obtain rfl := List.mem_singleton.1 h
    rw [UInt8.toNat_ofNat']
    omega
  · right
    -- every byte of a longer encoding has a sum of this form
    have hhigh : ∀ n, 128 ≤ n → n < 256 → 128 ≤ (UInt8.ofNat n).toNat := fun n hlow hlt => by
      rw [UInt8.toNat_ofNat', Nat.mod_eq_of_lt hlt]
      exact hlow
    split at h
    · simp only [List.mem_cons, List.not_mem_nil, or_false] at h
      rcases h with rfl | rfl <;> exact hhigh _ (by omega) (by omega)
    · split at h
      · simp only [List.mem_cons, List.not_mem_nil, or_false] at h
        rcases h with rfl | rfl | rfl <;> exact hhigh _ (by omega) (by omega)
      · simp only [List.mem_cons, List.not_mem_nil, or_false] at h
        rcases h with rfl | rfl | rfl | rfl <;> exact hhigh _ (by omega) (by omega)

/-- **A byte of ASCII is a character of ASCII.** -/
theorem mem_of_mem_encode {text : String} {c : Char} {byte : UInt8} (h : byte ∈ encode text)
    (hbyte : byte.toNat = c.toNat) (hascii : c.toNat < 128) : c ∈ text.toList := by
  rw [encode_eq_flatMap, List.mem_flatMap] at h
  obtain ⟨c', hc', hmem⟩ := h
  have hcode : c'.toNat = c.toNat := by
    rcases eq_or_le_of_mem_utf8EncodeChar hmem with heq | hle <;> omega
  rwa [← Char.toNat_inj.1 hcode]

/-! ## Lines -/

/-- A text that can stand in a line and come back. -/
structure IsLine (text : String) : Prop where
  no_lineFeed : '\n' ∉ text.toList
  /-- Its end is not taken for a part of the end of the line. -/
  no_return : text.toList.getLast? ≠ some '\r'

instance (text : String) : Decidable (IsLine text) :=
  decidable_of_iff ('\n' ∉ text.toList ∧ text.toList.getLast? ≠ some '\r')
    ⟨fun h => ⟨h.1, h.2⟩, fun h => ⟨h.1, h.2⟩⟩

/-- Texts, each with a line feed behind it. -/
def inputOf (texts : List String) : List UInt8 :=
  texts.flatMap fun text => encode text ++ [10]

/-- A line reaches to the first line feed. -/
theorem splitLines_append {line : List UInt8} (h : 10 ∉ line) (rest : List UInt8) :
    splitLines (line ++ 10 :: rest) = (line ++ [10]) :: splitLines rest := by
  induction line with
  | nil => rfl
  | cons byte line ih =>
    rw [List.mem_cons, not_or] at h
    rw [List.cons_append, splitLines, if_neg (Ne.symm h.1), ih h.2]
    rfl

/-- A line without its line feed, if there is no carriage return before it. -/
theorem dropLineEnd_append {line : List UInt8} (h : line.getLast? ≠ some 13) :
    dropLineEnd (line ++ [10]) = line := by
  unfold dropLineEnd
  rw [List.reverse_append, List.reverse_singleton, List.singleton_append]
  split
  · next text heq =>
    rw [List.cons.injEq] at heq
    rw [← List.head?_reverse, heq.2] at h
    exact absurd rfl h
  · next text _ heq =>
    rw [List.cons.injEq] at heq
    rw [← heq.2, List.reverse_reverse]
  · next hother => exact absurd rfl (hother line.reverse)

/-- The last byte of a text is no carriage return, unless its last character is. -/
theorem getLast?_encode_ne {text : String} (h : IsLine text) :
    (encode text).getLast? ≠ some 13 := by
  intro hlast
  rw [encode_eq_flatMap] at hlast
  rcases List.eq_nil_or_concat text.toList with hnil | ⟨front, c, hconcat⟩
  · simp [hnil] at hlast
  · rw [hconcat, List.concat_eq_append] at hlast
    have hc : c ≠ '\r' := by
      rintro rfl
      exact h.no_return (by rw [hconcat, List.concat_eq_append, List.getLast?_concat])
    rw [List.flatMap_append, List.flatMap_singleton,
      List.getLast?_append_of_ne_nil _ String.utf8EncodeChar_ne_nil] at hlast
    have hcode : c.toNat = '\r'.toNat :=
      ((eq_or_le_of_mem_utf8EncodeChar (List.mem_of_getLast? hlast)).resolve_right (by decide)).symm
    exact hc (Char.toNat_inj.1 hcode)

/-- **Texts that stand in lines come back.** -/
theorem lines_inputOf {texts : List String} (h : ∀ text ∈ texts, IsLine text) :
    lines (inputOf texts) = texts.map some := by
  induction texts with
  | nil => rfl
  | cons text texts ih =>
    have hline := h text List.mem_cons_self
    have hlineFeed : 10 ∉ encode text := fun hmem =>
      hline.no_lineFeed (mem_of_mem_encode hmem rfl (by decide))
    have hinput : inputOf (text :: texts) = encode text ++ 10 :: inputOf texts := by
      rw [inputOf, List.flatMap_cons, List.append_assoc]
      rfl
    have htext : lineText? (encode text ++ [10]) = some text := by
      rw [lineText?, dropLineEnd_append (getLast?_encode_ne hline), decode?_encode]
    rw [lines, hinput, splitLines_append hlineFeed, List.map_cons, htext, List.map_cons,
      ← ih fun other hother => h other (List.mem_cons_of_mem _ hother)]
    rfl

end Shell
end ColumnarSql
