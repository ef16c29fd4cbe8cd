import ColumnarSql.Lexeme.Spelling
import ColumnarSql.Proofs.Unicode.LowerCase

/-!
# The longest match is the longest

`Spelling.Begins` says what it means that a text begins with a spelling in any letter case: the
lower case of some piece at its front is the spelling.  The search narrows down a list of
candidates character by character and stops when none is left that lacks anything.  That it
then has the longest spelling the text begins with, and of equally long ones the first, is
`Spelling.longestMatch_eq_some` and `Spelling.exists_of_begins`.

The induction is on the text, and what is carried along is `Spelling.FirstLongest`, a statement
about what the candidates still lack: a candidate that moves on over a character lacks one
character less, and the text behind the character begins with what it lacks then
(`Spelling.begins_cons_iff`).  This counts characters of spellings and of the text alike, which
is right as long as spellings are in ASCII (`Spelling.Readable`).
-/

namespace ColumnarSql
namespace Spelling

variable {α : Type}

/-- A text begins with a spelling, in any letter case. -/
def Begins (spelling source : List Char) : Prop :=
  ∃ text rest, text ++ rest = source ∧ text.flatMap Unicode.lower = spelling

/-- A spelling that can be looked for: it has characters, and they are in ASCII. -/
def Readable (spelling : List Char) : Prop :=
  spelling ≠ [] ∧ ∀ c ∈ spelling, c.toNat < 128

/-- A text begins with an ASCII spelling exactly if the lower case of as many characters is
the spelling. -/
theorem begins_iff_take {spelling source : List Char} (h : ∀ c ∈ spelling, c.toNat < 128) :
    Begins spelling source ↔ (source.take spelling.length).flatMap Unicode.lower = spelling := by
  constructor
  · rintro ⟨text, rest, rfl, rfl⟩
    rw [Unicode.length_flatMap_lower h, List.take_left]
  · intro hlower
    exact ⟨source.take spelling.length, source.drop spelling.length, List.take_append_drop _ _,
      hlower⟩

/-! ## One character -/

/-- A text begins with a spelling exactly if its first character does, and what follows
begins with the rest of the spelling. -/
theorem begins_cons_iff {spelling : List Char} (hne : spelling ≠ []) {c : Char}
    {rest : List Char} :
    Begins spelling (c :: rest) ↔
      ∃ pending, Unicode.lower c ++ pending = spelling ∧ Begins pending rest := by
  constructor
  · rintro ⟨text, after, htext, rfl⟩
    cases text with
    | nil => exact absurd rfl hne
    | cons c' text =>
      obtain ⟨rfl, rfl⟩ := List.cons.inj htext
      exact ⟨text.flatMap Unicode.lower, (List.flatMap_cons ..).symm, text, after, rfl, rfl⟩
  · rintro ⟨pending, rfl, text, after, rfl, rfl⟩
    exact ⟨c :: text, after, rfl, List.flatMap_cons ..⟩

theorem begins_nil (source : List Char) : Begins [] source :=
  ⟨[], source, rfl, rfl⟩

/-- An empty text begins with no spelling. -/
theorem not_begins_nil {spelling : List Char} (hne : spelling ≠ []) : ¬ Begins spelling [] := by
  rintro ⟨text, rest, htext, rfl⟩
  obtain ⟨rfl, -⟩ := List.append_eq_nil_iff.1 htext
  exact hne rfl

/-- A candidate moves on over a character exactly if what it lacks begins with the lower case
of the character. -/
theorem advance?_eq_some_iff {c : Char} {candidate moved : Candidate α} :
    candidate.advance? c = some moved ↔
      Unicode.lower c ++ moved.pending = candidate.pending ∧ moved.item = candidate.item ∧
        moved.spelling = candidate.spelling := by
  rw [Candidate.advance?, Option.map_eq_some_iff]
  constructor
  · rintro ⟨pending, hpending, rfl⟩
    exact ⟨List.isPrefixOf?_eq_some_iff_append_eq.1 hpending, rfl, rfl⟩
  · rintro ⟨hpending, hitem, hspelling⟩
    refine ⟨moved.pending, List.isPrefixOf?_eq_some_iff_append_eq.2 hpending, ?_⟩
    rw [← hitem, ← hspelling]

/-- A candidate that lacks ASCII lacks one character less when it has moved on. -/
theorem Readable.length_pending {c : Char} {candidate moved : Candidate α}
    (h : Readable candidate.pending) (hmoved : candidate.advance? c = some moved) :
    candidate.pending.length = moved.pending.length + 1 ∧
      ∀ d ∈ moved.pending, d.toNat < 128 := by
  obtain ⟨hpending, -, -⟩ := advance?_eq_some_iff.1 hmoved
  rw [Readable, ← hpending] at h
  obtain ⟨d, hd⟩ := Unicode.exists_lower_of_ascii fun d hd => h.2 d (List.mem_append_left _ hd)
  refine ⟨?_, fun d hd => h.2 d (List.mem_append_right _ hd)⟩
  rw [← hpending, hd, List.singleton_append, List.length_cons]

/-- **What a candidate does that the text begins with**: it moves on over the first character,
and either that was all it lacked or the text behind begins with what it still lacks. -/
theorem Readable.cases_of_begins {c : Char} {rest : List Char} {candidate : Candidate α}
    (h : Readable candidate.pending) (hbegins : Begins candidate.pending (c :: rest)) :
    ∃ moved, candidate.advance? c = some moved ∧
      candidate.pending.length = moved.pending.length + 1 ∧
      (moved.isComplete = true ∧ moved.pending.length = 0 ∨
        moved.isComplete = false ∧ Begins moved.pending rest) := by
  obtain ⟨pending, hpending, hrest⟩ := (begins_cons_iff h.1).1 hbegins
  have hmoved : candidate.advance? c = some ⟨candidate.item, candidate.spelling, pending⟩ :=
    advance?_eq_some_iff.2 ⟨hpending, rfl, rfl⟩
  refine ⟨_, hmoved, (h.length_pending hmoved).1, ?_⟩
  cases pending with
  | nil => exact .inl ⟨rfl, rfl⟩
  | cons d pending => exact .inr ⟨rfl, hrest⟩

theorem begins_of_advance? {c : Char} {rest : List Char} {candidate moved : Candidate α}
    (hne : candidate.pending ≠ []) (hmoved : candidate.advance? c = some moved)
    (h : Begins moved.pending rest) : Begins candidate.pending (c :: rest) := by
  obtain ⟨hpending, -, -⟩ := advance?_eq_some_iff.1 hmoved
  exact (begins_cons_iff hne).2 ⟨moved.pending, hpending, h⟩

/-! ## The search -/

/-- **The first longest candidate**: the text begins with what it lacks, and with nothing
longer that a candidate lacks; those before it lack less. -/
def FirstLongest (candidates : List (Candidate α)) (source : List Char)
    (candidate : Candidate α) : Prop :=
  Begins candidate.pending source ∧ ∃ before after, candidates = before ++ candidate :: after ∧
    (∀ other ∈ before, Begins other.pending source →
      other.pending.length < candidate.pending.length) ∧
    ∀ other ∈ after, Begins other.pending source →
      other.pending.length ≤ candidate.pending.length

/-- The outcome of a search: the first longest candidate if there is one, and otherwise the
text begins with nothing that a candidate lacks. -/
def Finds (candidates : List (Candidate α)) (source : List Char) :
    Option (Candidate α) → Prop
  | some found => ∃ candidate, FirstLongest candidates source candidate ∧
      candidate.item = found.item ∧ candidate.spelling = found.spelling
  | none => ∀ candidate ∈ candidates, ¬ Begins candidate.pending source

/-- An entry of a list with gaps left out has come from an entry of the list, with the others
on the same side of it. -/
theorem exists_split_of_filterMap {β γ : Type} {f : β → Option γ} {list : List β} {b : γ}
    {before' after' : List γ} (h : list.filterMap f = before' ++ b :: after') :
    ∃ before a after, list = before ++ a :: after ∧ f a = some b ∧
      (∀ other ∈ before, ∀ moved, f other = some moved → moved ∈ before') ∧
      ∀ other ∈ after, ∀ moved, f other = some moved → moved ∈ after' := by
  obtain ⟨front, back, rfl, rfl, hback⟩ := List.filterMap_eq_append_iff.1 h
  obtain ⟨skipped, a, after, rfl, hskipped, ha, rfl⟩ := List.filterMap_eq_cons_iff.1 hback
  refine ⟨front ++ skipped, a, after, List.append_assoc .. |>.symm, ha, ?_, ?_⟩
  · intro other hother moved hmoved
    rcases List.mem_append.1 hother with hother | hother
    · exact List.mem_filterMap.2 ⟨other, hother, hmoved⟩
    · rw [hskipped other hother] at hmoved
      simp at hmoved
  · intro other hother moved hmoved
    exact List.mem_filterMap.2 ⟨other, hother, hmoved⟩

section Search

variable {candidates : List (Candidate α)} {c : Char} {rest : List Char}

/-- The candidates that lack something behind a character. -/
def alive (candidates : List (Candidate α)) (c : Char) : List (Candidate α) :=
  (candidates.filterMap (·.advance? c)).filter (!·.isComplete)

theorem alive_eq (candidates : List (Candidate α)) (c : Char) :
    alive candidates c =
      candidates.filterMap fun candidate => (candidate.advance? c).filter (!·.isComplete) :=
  List.filter_filterMap

theorem mem_alive {candidate moved : Candidate α} (hmem : candidate ∈ candidates)
    (hmoved : candidate.advance? c = some moved) (hcomplete : moved.isComplete = false) :
    moved ∈ alive candidates c :=
  List.mem_filter.2 ⟨List.mem_filterMap.2 ⟨candidate, hmem, hmoved⟩, by simp [hcomplete]⟩

theorem readable_of_mem_alive (h : ∀ candidate ∈ candidates, Readable candidate.pending)
    {moved : Candidate α} (hmoved : moved ∈ alive candidates c) : Readable moved.pending := by
  obtain ⟨hmem, hcomplete⟩ := List.mem_filter.1 hmoved
  obtain ⟨candidate, hcandidate, hadvance⟩ := List.mem_filterMap.1 hmem
  exact ⟨by simpa [Candidate.isComplete] using hcomplete,
    ((h candidate hcandidate).length_pending hadvance).2⟩

/-- A candidate that is found behind the first character. -/
theorem finds_of_alive (h : ∀ candidate ∈ candidates, Readable candidate.pending)
    {found : Candidate α} (hfound : Finds (alive candidates c) rest (some found)) :
    Finds candidates (c :: rest) (some found) := by
  obtain ⟨moved, ⟨hbegins, before', after', hsplit, hbefore, hafter⟩, hitem, hspelling⟩ := hfound
  rw [alive_eq] at hsplit
  obtain ⟨before, candidate, after, rfl, hstep, hfront, hback⟩ :=
    exists_split_of_filterMap hsplit
  obtain ⟨hadvance, hpending⟩ := Option.filter_eq_some_iff.1 hstep
  have hreadable := h candidate (List.mem_append_right _ List.mem_cons_self)
  have hlength := (hreadable.length_pending hadvance).1
  have hpos : 0 < moved.pending.length := by
    simpa [Candidate.isComplete, List.length_pos_iff] using hpending
  obtain ⟨-, hitem', hspelling'⟩ := advance?_eq_some_iff.1 hadvance
  refine ⟨candidate, ⟨begins_of_advance? hreadable.1 hadvance hbegins, before, after, rfl, ?_, ?_⟩,
    hitem'.symm.trans hitem, hspelling'.symm.trans hspelling⟩
  · intro other hother hbegins'
    obtain ⟨moved', hadvance', hlength', ⟨-, hzero⟩ | ⟨hcomplete, hbegins'⟩⟩ :=
      (h other (List.mem_append_left _ hother)).cases_of_begins hbegins'
    · omega
    · have hmem := hfront other hother moved'
        (Option.filter_eq_some_iff.2 ⟨hadvance', by simp [hcomplete]⟩)
      have := hbefore moved' hmem hbegins'
      omega
  · intro other hother hbegins'
    obtain ⟨moved', hadvance', hlength', ⟨-, hzero⟩ | ⟨hcomplete, hbegins'⟩⟩ :=
      (h other (List.mem_append_right _ (List.mem_cons_of_mem _ hother))).cases_of_begins hbegins'
    · omega
    · have hmem := hback other hother moved'
        (Option.filter_eq_some_iff.2 ⟨hadvance', by simp [hcomplete]⟩)
      have := hafter moved' hmem hbegins'
      omega

/-- If nothing is found behind the first character, what is found is a candidate that lacked
only that, the first of them. -/
theorem finds_find? (h : ∀ candidate ∈ candidates, Readable candidate.pending)
    (hnone : Finds (alive candidates c) rest none) :
    Finds candidates (c :: rest) ((candidates.filterMap (·.advance? c)).find? (·.isComplete)) := by
  have hcomplete : ∀ other ∈ candidates, Begins other.pending (c :: rest) →
      ∃ moved, other.advance? c = some moved ∧ moved.isComplete = true ∧
        other.pending.length = 1 := by
    intro other hother hbegins
    obtain ⟨moved, hadvance, hlength, ⟨hcomplete, hzero⟩ | ⟨hcomplete, hbegins'⟩⟩ :=
      (h other hother).cases_of_begins hbegins
    · exact ⟨moved, hadvance, hcomplete, by omega⟩
    · exact absurd hbegins' (hnone moved (mem_alive hother hadvance hcomplete))
  cases hfind : (candidates.filterMap (·.advance? c)).find? (·.isComplete) with
  | none =>
    intro other hother hbegins
    obtain ⟨moved, hadvance, hmoved, -⟩ := hcomplete other hother hbegins
    exact List.find?_eq_none.1 hfind moved (List.mem_filterMap.2 ⟨other, hother, hadvance⟩) hmoved
  | some found =>
    obtain ⟨hfound, before', after', hsplit, hbefore⟩ := List.find?_eq_some_iff_append.1 hfind
    obtain ⟨before, candidate, after, rfl, hadvance, hfront, -⟩ :=
      exists_split_of_filterMap hsplit
    have hreadable := h candidate (List.mem_append_right _ List.mem_cons_self)
    have hpending : found.pending = [] := List.isEmpty_iff.1 hfound
    have hlength := (hreadable.length_pending hadvance).1
    obtain ⟨-, hitem, hspelling⟩ := advance?_eq_some_iff.1 hadvance
    refine ⟨candidate, ⟨?_, before, after, rfl, ?_, ?_⟩, hitem.symm, hspelling.symm⟩
    · exact begins_of_advance? hreadable.1 hadvance (hpending ▸ begins_nil rest)
    · intro other hother hbegins
      obtain ⟨moved, hadvance', hmoved, -⟩ :=
        hcomplete other (List.mem_append_left _ hother) hbegins
      have := hbefore moved (hfront other hother moved hadvance')
      simp [hmoved] at this
    · intro other hother hbegins
      obtain ⟨-, -, -, hone⟩ :=
        hcomplete other (List.mem_append_right _ (List.mem_cons_of_mem _ hother)) hbegins
      omega

end Search

/-- **The search finds the first longest candidate.** -/
theorem finds_narrow {candidates : List (Candidate α)} {source : List Char}
    (h : ∀ candidate ∈ candidates, Readable candidate.pending) :
    Finds candidates source (narrow candidates source) := by
  induction source generalizing candidates with
  | nil =>
    intro candidate hcandidate
    exact not_begins_nil (h candidate hcandidate).1
  | cons c rest ih =>
    have hrest := ih fun moved hmoved => readable_of_mem_alive h (c := c) hmoved
    show Finds candidates (c :: rest)
      ((if (alive candidates c).isEmpty then none else narrow (alive candidates c) rest).or
        ((candidates.filterMap (·.advance? c)).find? (·.isComplete)))
    by_cases hempty : (alive candidates c).isEmpty = true
    · rw [if_pos hempty, Option.none_or]
      refine finds_find? h fun moved hmoved => ?_
      rw [List.isEmpty_iff.1 hempty] at hmoved
      simp at hmoved
    · rw [if_neg hempty]
      cases hnarrow : narrow (alive candidates c) rest with
      | none =>
        rw [hnarrow] at hrest
        exact finds_find? h hrest
      | some found =>
        rw [hnarrow] at hrest
        exact finds_of_alive h hrest

/-! ## Entries -/

theorem finds_start {entries : List (α × String)}
    (h : ∀ entry ∈ entries, Readable entry.2.toList) (source : List Char) :
    Finds (entries.map Candidate.start) source (narrow (entries.map Candidate.start) source) := by
  refine finds_narrow fun candidate hcandidate => ?_
  obtain ⟨entry, hentry, rfl⟩ := List.mem_map.1 hcandidate
  exact h entry hentry

/-- **A match is the longest**, and the first of equally long ones. -/
theorem longestMatch_eq_some {entries : List (α × String)}
    (h : ∀ entry ∈ entries, Readable entry.2.toList) {source : List Char} {item : α}
    {length : Nat} (hmatch : longestMatch entries source = some (item, length)) :
    ∃ before spelling after, entries = before ++ (item, spelling) :: after ∧
      spelling.toList.length = length ∧ Begins spelling.toList source ∧
      (∀ entry ∈ before, Begins entry.2.toList source → entry.2.toList.length < length) ∧
      ∀ entry ∈ after, Begins entry.2.toList source → entry.2.toList.length ≤ length := by
  obtain ⟨found, hfound, heq⟩ := Option.map_eq_some_iff.1 hmatch
  obtain ⟨rfl, rfl⟩ := Prod.mk.inj heq
  have hfinds := finds_start h source
  rw [hfound] at hfinds
  obtain ⟨candidate, ⟨hbegins, before', after', hsplit, hbefore, hafter⟩, hitem, hspelling⟩ :=
    hfinds
  obtain ⟨before, others, rfl, rfl, hothers⟩ := List.map_eq_append_iff.1 hsplit
  obtain ⟨⟨item, spelling⟩, after, rfl, rfl, rfl⟩ := List.map_eq_cons_iff.1 hothers
  rw [← hitem, ← hspelling]
  exact ⟨before, spelling, after, rfl, rfl, hbegins,
    fun entry hentry => hbefore _ (List.mem_map_of_mem hentry),
    fun entry hentry => hafter _ (List.mem_map_of_mem hentry)⟩

/-- **If the text begins with a spelling, there is a match.** -/
theorem exists_of_begins {entries : List (α × String)}
    (h : ∀ entry ∈ entries, Readable entry.2.toList) {source : List Char} {entry : α × String}
    (hentry : entry ∈ entries) (hbegins : Begins entry.2.toList source) :
    ∃ item length, longestMatch entries source = some (item, length) := by
  cases hmatch : longestMatch entries source with
  | some found => exact ⟨found.1, found.2, rfl⟩
  | none =>
    have hfinds := finds_start h source
    rw [Option.map_eq_none_iff.1 hmatch] at hfinds
    exact absurd hbegins (hfinds (Candidate.start entry) (List.mem_map_of_mem hentry))

end Spelling
end ColumnarSql
