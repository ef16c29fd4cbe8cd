import ColumnarSql.Proofs.Lexeme.LongestMatch
import Mathlib.Order.Bounds.Basic
import Mathlib.Tactic.Tauto

/-!
# Spellings in one pass

The search for the longest spelling narrows a list of candidates down and gives back, on its way
out, the longest that it has seen.  The same can be done without a way out.  `Spelling.pass` goes
through the text once.  It keeps the lower case of what it has read, a flag for each entry of the
list, and the best match so far.  An entry falls out of the race when it has been matched as a
whole, or when it does not begin with what has been read; and when no entry is left, the pass stops.

That this finds the same (`Spelling.onePass_eq_longestMatch`) rests on two things.

* The flags are determined by what has been read: in the race is what begins with it and is longer
  (`runnerAt`).  An entry that is out stays out, so nothing longer is missed by stopping.
* What is matched is as long as what has been read.  So a later match is longer than an earlier one,
  and of the entries that are matched at the same character the first one stays (`lookAll_eq`).

`Spelling.longest_match_is_longest` says of both what they find, at every place of a text.
-/

namespace ColumnarSql
namespace Spelling

variable {α : Type}

/-! ## The pass -/

/-- An entry in the race. -/
structure Runner (α : Type) where
  item : α
  spelling : List Char
  live : Bool

/-- The best match when another one has been met.  It does not count if it is not longer. -/
def better (item : α) (length : Nat) (best : Option (α × Nat)) : Option (α × Nat) :=
  if best.all (·.2 < length) then some (item, length) else best

/-- A look at an entry, where `seen` is the lower case of what has been read. -/
def look (seen : List Char) (runner : Runner α) (best : Option (α × Nat)) :
    Runner α × Option (α × Nat) :=
  if runner.live then
    if seen = runner.spelling then
      ({ runner with live := false }, better runner.item runner.spelling.length best)
    else if seen.isPrefixOf runner.spelling then
      (runner, best)
    else
      ({ runner with live := false }, best)
  else
    (runner, best)

/-- A look at every entry, from the first to the last. -/
def lookAll (seen : List Char) :
    List (Runner α) → Option (α × Nat) → List (Runner α) × Option (α × Nat)
  | [], best => ([], best)
  | runner :: runners, best =>
    let looked := look seen runner best
    let others := lookAll seen runners looked.2
    (looked.1 :: others.1, others.2)

/-- **One pass over a text**, from character to character, until no entry is in the race. -/
def pass (seen : List Char) (runners : List (Runner α)) (best : Option (α × Nat)) :
    List Char → Option (α × Nat)
  | [] => best
  | c :: rest =>
    let looked := lookAll (seen ++ Unicode.lower c) runners best
    if looked.1.all (!·.live) then
      looked.2
    else
      pass (seen ++ Unicode.lower c) looked.1 looked.2 rest

/-- The longest spelling at the front of a text, found in one pass. -/
def onePass (entries : List (α × String)) (source : List Char) : Option (α × Nat) :=
  pass [] (entries.map fun entry => ⟨entry.1, entry.2.toList, true⟩) none source

/-! ## The flags -/

/-- A spelling begins with what has been read, and goes on. -/
def GoesOn (seen spelling : List Char) : Prop :=
  ∃ pending, pending ≠ [] ∧ seen ++ pending = spelling

theorem goesOn_iff {seen spelling : List Char} :
    GoesOn seen spelling ↔ seen ≠ spelling ∧ seen.isPrefixOf spelling = true := by
  rw [List.isPrefixOf_iff_prefix]
  constructor
  · rintro ⟨pending, hpending, rfl⟩
    exact ⟨by simpa using hpending, List.prefix_append _ _⟩
  · rintro ⟨hne, pending, rfl⟩
    exact ⟨pending, by simpa using hne, rfl⟩

instance (seen spelling : List Char) : Decidable (GoesOn seen spelling) :=
  decidable_of_iff _ goesOn_iff.symm

/-- What goes on with more goes on with less. -/
theorem GoesOn.of_append {seen more spelling : List Char} (h : GoesOn (seen ++ more) spelling) :
    GoesOn seen spelling := by
  obtain ⟨pending, hpending, rfl⟩ := h
  exact ⟨more ++ pending, by simp [hpending], (List.append_assoc ..).symm⟩

/-- The state of an entry is determined by what has been read. -/
def runnerAt (seen : List Char) (entry : α × String) : Runner α :=
  ⟨entry.1, entry.2.toList, decide (GoesOn seen entry.2.toList)⟩

/-- **A look at one entry** makes its flag right again, and meets a match exactly if all of the
entry has been read. -/
theorem look_runnerAt (seen : List Char) {more : List Char} (hmore : more ≠ [])
    (entry : α × String) (best : Option (α × Nat)) :
    look (seen ++ more) (runnerAt seen entry) best =
      (runnerAt (seen ++ more) entry,
        if seen ++ more = entry.2.toList then better entry.1 entry.2.toList.length best
        else best) := by
  rw [look, runnerAt, runnerAt]
  dsimp only
  by_cases hlive : GoesOn seen entry.2.toList
  · rw [decide_eq_true hlive, if_pos rfl]
    by_cases hwhole : seen ++ more = entry.2.toList
    · have hdead : ¬ GoesOn (seen ++ more) entry.2.toList := fun h => (goesOn_iff.1 h).1 hwhole
      rw [if_pos hwhole, if_pos hwhole, decide_eq_false hdead]
    · rw [if_neg hwhole, if_neg hwhole]
      by_cases hbegins : (seen ++ more).isPrefixOf entry.2.toList = true
      · rw [if_pos hbegins, decide_eq_true (goesOn_iff.2 ⟨hwhole, hbegins⟩)]
      · have hdead : ¬ GoesOn (seen ++ more) entry.2.toList :=
          fun h => hbegins (goesOn_iff.1 h).2
        rw [if_neg hbegins, decide_eq_false hdead]
  · have hdead : ¬ GoesOn (seen ++ more) entry.2.toList := fun h => hlive h.of_append
    have hwhole : seen ++ more ≠ entry.2.toList := fun h => hlive ⟨more, hmore, h⟩
    rw [decide_eq_false hlive, if_neg Bool.false_ne_true, if_neg hwhole, decide_eq_false hdead]

/-! ## The best match -/

theorem better_of_lt (item : α) {length : Nat} {best : Option (α × Nat)}
    (h : ∀ found ∈ best, found.2 < length) : better item length best = some (item, length) := by
  refine if_pos ?_
  cases best with
  | none => rfl
  | some found => simpa using h found rfl

theorem better_of_le (item : α) {length : Nat} {found : α × Nat} (h : length ≤ found.2) :
    better item length (some found) = some found :=
  if_neg (by simpa using h)

/-- A match that is as long as what has been read stays. -/
theorem lookAll_of_le (seen : List Char) {more : List Char} (hmore : more ≠ [])
    (entries : List (α × String)) {found : α × Nat} (h : (seen ++ more).length ≤ found.2) :
    lookAll (seen ++ more) (entries.map (runnerAt seen)) (some found) =
      (entries.map (runnerAt (seen ++ more)), some found) := by
  induction entries with
  | nil => rfl
  | cons entry entries ih =>
    have hstays : (if seen ++ more = entry.2.toList then
        better entry.1 entry.2.toList.length (some found) else some found) = some found := by
      split
      · next hwhole => exact better_of_le _ (hwhole ▸ h)
      · rfl
    rw [List.map_cons, lookAll, look_runnerAt seen hmore, hstays, ih, List.map_cons]

/-- **A look at all entries**: the first that has been read as a whole is the best match. -/
theorem lookAll_eq (seen : List Char) {more : List Char} (hmore : more ≠ [])
    (entries : List (α × String)) {best : Option (α × Nat)}
    (hbest : ∀ found ∈ best, found.2 < (seen ++ more).length) :
    lookAll (seen ++ more) (entries.map (runnerAt seen)) best =
      (entries.map (runnerAt (seen ++ more)),
        ((entries.find? fun entry => seen ++ more = entry.2.toList).map fun entry =>
          (entry.1, entry.2.toList.length)).or best) := by
  induction entries with
  | nil => rfl
  | cons entry entries ih =>
    rw [List.map_cons, lookAll, look_runnerAt seen hmore, List.map_cons, List.find?_cons]
    by_cases hwhole : seen ++ more = entry.2.toList
    · rw [if_pos hwhole, better_of_lt _ (hwhole ▸ hbest), decide_eq_true hwhole,
        lookAll_of_le seen hmore entries (congrArg List.length hwhole).le]
      rfl
    · rw [if_neg hwhole, ih, decide_eq_false hwhole]

/-! ## The pass and the search -/

/-- An entry as a candidate of the search, if it goes on with what has been read. -/
def openAt? (seen : List Char) (entry : α × String) : Option (Candidate α) :=
  (seen.isPrefixOf? entry.2.toList).bind fun pending =>
    if pending.isEmpty then none else some ⟨entry.1, entry.2.toList, pending⟩

theorem openAt?_eq_some_iff {seen : List Char} {entry : α × String} {candidate : Candidate α} :
    openAt? seen entry = some candidate ↔
      candidate.item = entry.1 ∧ candidate.spelling = entry.2.toList ∧
        candidate.pending ≠ [] ∧ seen ++ candidate.pending = entry.2.toList := by
  rw [openAt?, Option.bind_eq_some_iff]
  constructor
  · rintro ⟨pending, hpending, hopen⟩
    split at hopen
    · simp at hopen
    · next hne =>
      obtain rfl := Option.some.inj hopen
      exact ⟨rfl, rfl, by simpa using hne, List.isPrefixOf?_eq_some_iff_append_eq.1 hpending⟩
  · rintro ⟨hitem, hspelling, hne, happend⟩
    refine ⟨candidate.pending, List.isPrefixOf?_eq_some_iff_append_eq.2 happend, ?_⟩
    rw [if_neg (by simpa using hne), ← hitem, ← hspelling]

/-- An entry is open exactly if it goes on. -/
theorem openAt?_eq_none_iff {seen : List Char} {entry : α × String} :
    openAt? seen entry = none ↔ ¬ GoesOn seen entry.2.toList := by
  rw [Option.eq_none_iff_forall_ne_some]
  constructor
  · rintro h ⟨pending, hne, happend⟩
    exact h ⟨entry.1, entry.2.toList, pending⟩ (openAt?_eq_some_iff.2 ⟨rfl, rfl, hne, happend⟩)
  · intro h candidate hcandidate
    obtain ⟨-, -, hne, happend⟩ := openAt?_eq_some_iff.1 hcandidate
    exact h ⟨candidate.pending, hne, happend⟩

/-- An open entry that moves on over a character. -/
theorem advance?_openAt?_eq_some_iff {seen : List Char} {c : Char} {entry : α × String}
    {moved : Candidate α} :
    (openAt? seen entry).bind (·.advance? c) = some moved ↔
      moved.item = entry.1 ∧ moved.spelling = entry.2.toList ∧
        seen ++ Unicode.lower c ++ moved.pending = entry.2.toList := by
  rw [Option.bind_eq_some_iff]
  constructor
  · rintro ⟨candidate, hcandidate, hadvance⟩
    obtain ⟨hitem, hspelling, -, happend⟩ := openAt?_eq_some_iff.1 hcandidate
    obtain ⟨hlower, hitem', hspelling'⟩ := advance?_eq_some_iff.1 hadvance
    exact ⟨hitem'.trans hitem, hspelling'.trans hspelling, by
      rw [List.append_assoc, hlower, happend]⟩
  · rintro ⟨hitem, hspelling, happend⟩
    refine ⟨⟨entry.1, entry.2.toList, Unicode.lower c ++ moved.pending⟩,
      openAt?_eq_some_iff.2 ⟨rfl, rfl, ?_, ?_⟩, advance?_eq_some_iff.2 ⟨rfl, hitem, hspelling⟩⟩
    · simp [Unicode.lower_ne_nil]
    · rw [← List.append_assoc, happend]

/-- The candidates of the search, when something has been read. -/
def openAt (seen : List Char) (entries : List (α × String)) : List (Candidate α) :=
  entries.filterMap (openAt? seen)

/-- The entries that are in the race are the candidates that are left. -/
theorem all_not_live (seen : List Char) (entries : List (α × String)) :
    (entries.map (runnerAt seen)).all (!·.live) = (openAt seen entries).isEmpty := by
  rw [Bool.eq_iff_iff, List.isEmpty_iff, openAt, List.filterMap_eq_nil_iff, List.all_map,
    List.all_eq_true]
  simp [runnerAt, openAt?_eq_none_iff]

/-- The candidates that are alive behind one more character. -/
theorem alive_openAt (seen : List Char) (c : Char) (entries : List (α × String)) :
    alive (openAt seen entries) c = openAt (seen ++ Unicode.lower c) entries := by
  rw [alive, openAt, List.filterMap_filterMap, List.filter_filterMap, openAt]
  refine List.filterMap_congr fun entry _ => Option.ext fun moved => ?_
  have hpending : (!moved.isComplete) = true ↔ moved.pending ≠ [] := by
    simp [Candidate.isComplete]
  rw [Option.filter_eq_some_iff, advance?_openAt?_eq_some_iff, openAt?_eq_some_iff, hpending]
  tauto

/-- What is complete behind one more character is what has been read as a whole. -/
theorem find?_openAt (seen : List Char) (c : Char) (entries : List (α × String)) :
    ((openAt seen entries).filterMap (·.advance? c)).find? (·.isComplete) =
      (entries.find? fun entry => seen ++ Unicode.lower c = entry.2.toList).map fun entry =>
        ⟨entry.1, entry.2.toList, []⟩ := by
  have hcomplete : (fun entry : α × String =>
        ((openAt? seen entry).bind (·.advance? c)).any (·.isComplete)) =
      fun entry => decide (seen ++ Unicode.lower c = entry.2.toList) := by
    funext entry
    rw [Bool.eq_iff_iff, decide_eq_true_iff, Option.any_eq_true]
    constructor
    · rintro ⟨moved, hmoved, hpending⟩
      obtain ⟨-, -, happend⟩ := advance?_openAt?_eq_some_iff.1 hmoved
      rwa [List.isEmpty_iff.1 hpending, List.append_nil] at happend
    · intro hwhole
      exact ⟨⟨entry.1, entry.2.toList, []⟩, advance?_openAt?_eq_some_iff.2
        ⟨rfl, rfl, (List.append_nil _).trans hwhole⟩, rfl⟩
  rw [openAt, List.filterMap_filterMap, List.find?_filterMap, hcomplete]
  cases hfind : entries.find? fun entry => decide (seen ++ Unicode.lower c = entry.2.toList) with
  | none => rfl
  | some entry =>
    have hwhole := List.find?_some hfind
    exact advance?_openAt?_eq_some_iff.2
      ⟨rfl, rfl, (List.append_nil _).trans (of_decide_eq_true hwhole)⟩

/-- **The pass finds what the search finds**, unless it has found something before and the search
finds nothing. -/
theorem pass_eq (entries : List (α × String)) {seen : List Char} {best : Option (α × Nat)}
    (hbest : ∀ found ∈ best, found.2 ≤ seen.length) (source : List Char) :
    pass seen (entries.map (runnerAt seen)) best source =
      ((narrow (openAt seen entries) source).map fun candidate =>
        (candidate.item, candidate.spelling.length)).or best := by
  induction source generalizing seen best with
  | nil => rfl
  | cons c rest ih =>
    have hlonger : ∀ found ∈ best, found.2 < (seen ++ Unicode.lower c).length := by
      intro found hfound
      have hle := hbest found hfound
      have hpos := List.length_pos_iff.2 (Unicode.lower_ne_nil c)
      rw [List.length_append]
      omega
    have hbest' : ∀ found ∈ ((entries.find? fun entry =>
          seen ++ Unicode.lower c = entry.2.toList).map fun entry =>
            (entry.1, entry.2.toList.length)).or best,
        found.2 ≤ (seen ++ Unicode.lower c).length := by
      intro found hfound
      rcases Option.or_eq_some_iff.1 hfound with hnew | ⟨-, hold⟩
      · obtain ⟨entry, hentry, rfl⟩ := Option.map_eq_some_iff.1 hnew
        have hwhole := List.find?_some hentry
        exact (congrArg List.length (of_decide_eq_true hwhole)).ge
      · exact (hlonger found hold).le
    have hnarrow : narrow (openAt seen entries) (c :: rest) =
        (if (alive (openAt seen entries) c).isEmpty then none
          else narrow (alive (openAt seen entries) c) rest).or
            (((openAt seen entries).filterMap (·.advance? c)).find? (·.isComplete)) := rfl
    rw [pass, lookAll_eq seen (Unicode.lower_ne_nil c) entries hlonger, all_not_live, hnarrow,
      alive_openAt, find?_openAt]
    by_cases hempty : (openAt (seen ++ Unicode.lower c) entries).isEmpty = true
    · rw [if_pos hempty, if_pos hempty, Option.none_or, Option.map_map]
      rfl
    · rw [if_neg hempty, if_neg hempty, ih hbest', Option.map_or, Option.or_assoc, Option.map_map]
      rfl

/-- **One pass finds what the search finds.** -/
theorem onePass_eq_longestMatch {entries : List (α × String)}
    (h : ∀ entry ∈ entries, entry.2.toList ≠ []) (source : List Char) :
    onePass entries source = longestMatch entries source := by
  have hrunners : (entries.map fun entry => (⟨entry.1, entry.2.toList, true⟩ : Runner α)) =
      entries.map (runnerAt []) := by
    refine List.map_congr_left fun entry hentry => ?_
    rw [runnerAt, decide_eq_true ⟨entry.2.toList, h entry hentry, List.nil_append _⟩]
  have hcandidates : openAt [] entries = entries.map Candidate.start := by
    rw [openAt, ← List.filterMap_eq_map]
    refine List.filterMap_congr fun entry hentry => ?_
    exact openAt?_eq_some_iff.2 ⟨rfl, rfl, h entry hentry, List.nil_append _⟩
  rw [onePass, hrunners, pass_eq entries (by simp), hcandidates, Option.or_none, longestMatch]

/-! ## What is found -/

/-- At a place of a text stand as many characters as a spelling has, and their lower case is the
spelling. -/
def SpelledAt (source : List Char) (place : Nat) (spelling : List Char) : Prop :=
  place + spelling.length ≤ source.length ∧
    ((source.drop place).take spelling.length).flatMap Unicode.lower = spelling

instance (source : List Char) (place : Nat) (spelling : List Char) :
    Decidable (SpelledAt source place spelling) :=
  inferInstanceAs (Decidable (_ ∧ _))

theorem Readable.spelledAt_iff {spelling : List Char} (h : Readable spelling)
    {source : List Char} {place : Nat} :
    SpelledAt source place spelling ↔ Begins spelling (source.drop place) := by
  rw [begins_iff_take h.2, SpelledAt, and_iff_right_iff_imp]
  intro hlower
  have hlength := Unicode.length_flatMap_lower (hlower ▸ h.2)
  rw [hlower, List.length_take, List.length_drop] at hlength
  have hpos := List.length_pos_iff.2 h.1
  omega

/-- The lengths of the spellings that stand at a place. -/
def lengthsAt (entries : List (α × String)) (source : List Char) (place : Nat) : Set Nat :=
  {length | ∃ entry ∈ entries, SpelledAt source place entry.2.toList ∧
    entry.2.toList.length = length}

/-- The first of the entries that stand at a place and have a given length. -/
def firstSpelled? (entries : List (α × String)) (source : List Char) (place length : Nat) :
    Option (α × String) :=
  entries.find? fun entry =>
    decide (SpelledAt source place entry.2.toList ∧ entry.2.toList.length = length)

section Found

variable {entries : List (α × String)} {source : List Char} {place length : Nat} {item : α}

/-- A match is the first of those that have the greatest length. -/
theorem first_of_longestMatch (h : ∀ entry ∈ entries, Readable entry.2.toList)
    (hmatch : longestMatch entries (source.drop place) = some (item, length)) :
    IsGreatest (lengthsAt entries source place) length ∧
      (firstSpelled? entries source place length).map Prod.fst = some item := by
  obtain ⟨before, spelling, after, rfl, hlength, hbegins, hbefore, hafter⟩ :=
    longestMatch_eq_some h hmatch
  have hspelled : SpelledAt source place spelling.toList :=
    (h (item, spelling) (by simp)).spelledAt_iff.2 hbegins
  refine ⟨⟨⟨(item, spelling), by simp, hspelled, hlength⟩, ?_⟩, ?_⟩
  · rintro other ⟨entry, hentry, hspelled', rfl⟩
    have hbegins' := (h entry hentry).spelledAt_iff.1 hspelled'
    rcases List.mem_append.1 hentry with hfront | hback
    · exact (hbefore entry hfront hbegins').le
    · rcases List.mem_cons.1 hback with rfl | hback
      · exact hlength.le
      · exact hafter entry hback hbegins'
  · have hskipped : before.find? (fun entry =>
        decide (SpelledAt source place entry.2.toList ∧ entry.2.toList.length = length)) =
        none := by
      refine List.find?_eq_none.2 fun entry hentry hfound => ?_
      obtain ⟨hspelled', hequal⟩ := of_decide_eq_true hfound
      have hbegins' := (h entry (List.mem_append_left _ hentry)).spelledAt_iff.1 hspelled'
      exact (hbefore entry hentry hbegins').ne hequal
    have hfirst : ((item, spelling) :: after).find? (fun entry =>
        decide (SpelledAt source place entry.2.toList ∧ entry.2.toList.length = length)) =
        some (item, spelling) :=
      List.find?_cons_of_pos (decide_eq_true ⟨hspelled, hlength⟩)
    rw [firstSpelled?, List.find?_append, hskipped, Option.none_or, hfirst, Option.map_some]

/-- Where a spelling stands there is a match. -/
theorem exists_of_spelledAt (h : ∀ entry ∈ entries, Readable entry.2.toList)
    {entry : α × String} (hentry : entry ∈ entries)
    (hspelled : SpelledAt source place entry.2.toList) :
    ∃ item length, longestMatch entries (source.drop place) = some (item, length) :=
  exists_of_begins h hentry ((h entry hentry).spelledAt_iff.1 hspelled)

/-- **The longest match is the longest.**  At every place of a text, for every list of ASCII
spellings: what is found is as long as the longest of those that stand there, and it is the first of
that length; nothing is found only where none stands.  A pass that stops when no entry is in the
race finds the same. -/
theorem longest_match_is_longest (h : ∀ entry ∈ entries, Readable entry.2.toList)
    (source : List Char) (place : Nat) :
    (∀ item length, longestMatch entries (source.drop place) = some (item, length) ↔
      IsGreatest (lengthsAt entries source place) length ∧
        (firstSpelled? entries source place length).map Prod.fst = some item) ∧
    (longestMatch entries (source.drop place) = none ↔
      ∀ entry ∈ entries, ¬ SpelledAt source place entry.2.toList) ∧
    onePass entries (source.drop place) = longestMatch entries (source.drop place) := by
  refine ⟨fun item length => ⟨first_of_longestMatch h, ?_⟩, ⟨?_, ?_⟩, ?_⟩
  · rintro ⟨hgreatest, hitem⟩
    obtain ⟨entry, hentry, hspelled, -⟩ := hgreatest.1
    obtain ⟨item', length', hmatch⟩ := exists_of_spelledAt h hentry hspelled
    obtain ⟨hgreatest', hitem'⟩ := first_of_longestMatch h hmatch
    obtain rfl := hgreatest.unique hgreatest'
    obtain rfl := Option.some.inj (hitem.symm.trans hitem')
    exact hmatch
  · intro hnone entry hentry hspelled
    obtain ⟨item, length, hmatch⟩ := exists_of_spelledAt h hentry hspelled
    simp [hnone] at hmatch
  · intro hnone
    rw [Option.eq_none_iff_forall_ne_some]
    rintro ⟨item, length⟩ hmatch
    obtain ⟨⟨entry, hentry, hspelled, -⟩, -⟩ := (first_of_longestMatch h hmatch).1
    exact hnone entry hentry hspelled
  · exact onePass_eq_longestMatch (fun entry hentry => (h entry hentry).1) _

end Found

/-- Spellings that begin with each other, one of them twice. -/
def sampleEntries : List (Nat × String) :=
  [(0, "in"), (1, "i"), (2, "int"), (3, "int"), (4, "interval")]

/-- Of `INTeger` no more than three letters are spelled, and the first entry with these counts. -/
theorem longest_match_is_longest_sampleEntries :
    (∀ entry ∈ sampleEntries, Readable entry.2.toList) ∧
      longestMatch sampleEntries ("a INTeger".toList.drop 2) = some (2, 3) ∧
      onePass sampleEntries ("a INTeger".toList.drop 2) = some (2, 3) := by
  have hreadable : ∀ entry ∈ sampleEntries, Readable entry.2.toList := by
    simp [sampleEntries, Readable]
  obtain ⟨hfound, -, hpass⟩ := longest_match_is_longest hreadable "a INTeger".toList 2
  have hmatch := (hfound 2 3).2 ⟨?_, by decide +kernel⟩
  · exact ⟨hreadable, hmatch, hpass.trans hmatch⟩
  · refine ⟨⟨(2, "int"), by simp [sampleEntries], by decide +kernel, by decide⟩, ?_⟩
    rintro length ⟨entry, hentry, hspelled, rfl⟩
    revert hspelled
    revert entry
    decide +kernel

end Spelling
end ColumnarSql
