import ColumnarSql.Unicode.LowerCase
import Mathlib.Data.List.Basic

/-!
# Which lower case is ASCII

A text is compared with ASCII spellings through its lower case, and the lower case of a
character need not be a single character, nor need it stand in the same alphabet.  How far
this can go is settled by the table, and `Unicode.lower_cases` says it: a character of ASCII
goes to its ASCII lower case; the Kelvin sign goes to `k`; and the lower case of every other
character has something in it that is not ASCII.

So a text with a lower case in ASCII is as long as that lower case
(`Unicode.length_flatMap_lower`), and if the letter `k` does not occur it is the same text up
to the case of ASCII letters (`Unicode.flatMap_lower_eq_iff`).  None of the reserved words and
none of the punctuation marks has a `k` in it.
-/

namespace ColumnarSql
namespace Unicode

/-- What holds of the first 128 code points holds of every ASCII character. -/
theorem forall_ascii {p : Char → Prop} (h : ∀ code < 128, p (Char.ofNat code)) {c : Char}
    (hc : c.toNat < 128) : p c := by
  rw [← Char.ofNat_toNat c]
  exact h c.toNat hc

/-- The Kelvin sign, a letter outside ASCII whose lower case is in ASCII. -/
def kelvinSign : Char := '\u212a'

/-- The runs of cased letters go to code points outside ASCII that are characters, but for
the run of the Kelvin sign. -/
theorem image_of_mem_caseRuns : ∀ run ∈ caseRuns,
    (run.first = kelvinSign.toNat ∧ run.last = kelvinSign.toNat ∧ run.image = 'k'.toNat) ∨
      (128 ≤ run.image ∧ run.image + (run.last - run.first) < 0xd800) ∨
      (0xdfff < run.image ∧ run.image + (run.last - run.first) < 0x110000) := by
  decide +kernel

/-- **The lower case of a character** is that of ASCII, or the `k` of the Kelvin sign, or
not within ASCII. -/
theorem lower_cases (c : Char) :
    (c.toNat < 128 ∧ lower c = [c.toLower]) ∨ (c = kelvinSign ∧ lower c = ['k']) ∨
      ∃ d ∈ lower c, 128 ≤ d.toNat := by
  by_cases hascii : c.toNat < 128
  · exact .inl ⟨hascii, lower_of_ascii hascii⟩
  rw [lower, if_neg hascii]
  by_cases hdotted : c = 'İ'
  · rw [if_pos hdotted]
    exact .inr (.inr ⟨'\u0307', by decide, by decide⟩)
  rw [if_neg hdotted]
  cases hfound : caseRuns.findSome? (·.lowerOf? c.toNat) with
  | none => exact .inr (.inr ⟨c, List.mem_singleton.2 rfl, by omega⟩)
  | some code =>
    obtain ⟨run, hrun, hcode⟩ := List.exists_of_findSome?_eq_some hfound
    rw [CaseRun.lowerOf?] at hcode
    split at hcode
    · next hmember =>
      obtain rfl := Option.some.inj hcode
      rcases image_of_mem_caseRuns run hrun with ⟨hfirst, hlast, himage⟩ | hvalid
      · have hkelvin : c.toNat = kelvinSign.toNat := by omega
        refine .inr (.inl ⟨Char.toNat_inj.1 hkelvin, ?_⟩)
        rw [himage, hfirst, hkelvin]
        rfl
      · -- A number that were no character would be read as the first one of ASCII.
        have hchar : (run.image + (c.toNat - run.first)).isValidChar := by
          rcases hvalid with ⟨-, hhigh⟩ | ⟨hlow, hhigh⟩
          · exact .inl (by omega)
          · exact .inr ⟨by omega, by omega⟩
        refine .inr (.inr ⟨_, List.mem_singleton.2 rfl, ?_⟩)
        rw [Char.ofNat, dif_pos hchar]
        show 128 ≤ run.image + (c.toNat - run.first)
        omega
    · simp at hcode

/-- A character with a lower case in ASCII has one of a single character. -/
theorem exists_lower_of_ascii {c : Char} (h : ∀ d ∈ lower c, d.toNat < 128) :
    ∃ d, lower c = [d] := by
  rcases lower_cases c with ⟨-, hlower⟩ | ⟨-, hlower⟩ | ⟨d, hd, hhigh⟩
  · exact ⟨_, hlower⟩
  · exact ⟨_, hlower⟩
  · exact absurd (h d hd) (by omega)

/-- A text with a lower case in ASCII is as long as that. -/
theorem length_flatMap_lower {text : List Char} (h : ∀ d ∈ text.flatMap lower, d.toNat < 128) :
    (text.flatMap lower).length = text.length := by
  induction text with
  | nil => rfl
  | cons c text ih =>
    rw [List.flatMap_cons] at h ⊢
    obtain ⟨d, hd⟩ := exists_lower_of_ascii fun d hd => h d (List.mem_append_left _ hd)
    rw [List.length_append, ih fun d hd => h d (List.mem_append_right _ hd), hd,
      List.length_singleton, List.length_cons, Nat.add_comm]

/-- Outside ASCII no character changes by the lower case of ASCII. -/
theorem toNat_lt_of_toLower {c : Char} (h : c.toLower.toNat < 128) : c.toNat < 128 := by
  by_contra hlarge
  have hnotUpper : ¬ (c.val ≥ 'A'.val ∧ c.val ≤ 'Z'.val) := fun hupper =>
    hlarge (Nat.lt_of_le_of_lt (UInt32.le_iff_toNat_le.1 hupper.2) (by decide))
  have hsame : c.toLower = c := dif_neg hnotUpper
  rw [hsame] at h
  exact hlarge h

/-- A character goes to a character of ASCII other than `k` exactly by the lower case of
ASCII. -/
theorem lower_eq_singleton_iff {c d : Char} (hd : d.toNat < 128) (hk : d ≠ 'k') :
    lower c = [d] ↔ c.toLower = d := by
  constructor
  · intro h
    rcases lower_cases c with ⟨-, hlower⟩ | ⟨-, hlower⟩ | ⟨d', hd', hhigh⟩
    · exact List.singleton_inj.1 (hlower.symm.trans h)
    · exact absurd (List.singleton_inj.1 (h.symm.trans hlower)) hk
    · obtain rfl : d' = d := by rwa [h, List.mem_singleton] at hd'
      omega
  · rintro rfl
    exact lower_of_ascii (toNat_lt_of_toLower hd)

/-- **A text has a lower case in ASCII without `k`** exactly if it has it letter by letter
within ASCII. -/
theorem flatMap_lower_eq_iff {text spelling : List Char}
    (h : ∀ d ∈ spelling, d.toNat < 128 ∧ d ≠ 'k') :
    text.flatMap lower = spelling ↔ text.map Char.toLower = spelling := by
  induction text generalizing spelling with
  | nil => exact Iff.rfl
  | cons c text ih =>
    rw [List.flatMap_cons, List.map_cons]
    constructor
    · rintro rfl
      obtain ⟨d, hd⟩ := exists_lower_of_ascii fun d hd => (h d (List.mem_append_left _ hd)).1
      have hmem : d ∈ lower c := by rw [hd]; exact List.mem_singleton.2 rfl
      obtain ⟨hascii, hk⟩ := h d (List.mem_append_left _ hmem)
      rw [hd, List.singleton_append, (lower_eq_singleton_iff hascii hk).1 hd,
        (ih fun d hd => h d (List.mem_append_right _ hd)).1 rfl]
    · rintro rfl
      obtain ⟨hascii, hk⟩ := h _ List.mem_cons_self
      rw [(lower_eq_singleton_iff hascii hk).2 rfl, List.singleton_append,
        (ih fun d hd => h d (List.mem_cons_of_mem _ hd)).2 rfl]

end Unicode
end ColumnarSql
