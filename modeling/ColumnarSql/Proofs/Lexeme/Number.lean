import ColumnarSql.Lexeme.Number
import ColumnarSql.Proofs.Lexeme.Boundary

/-!
# The grammar of numbers

What a number is, without saying how it is read:

```text
number   = mantissa exponent?
mantissa = D+ ('.' D*)? | '.' D+
exponent = 'e' ('+' | '-')? D+
```

where `D` is a digit of ASCII.  `Number.scan_eq_some_iff` says that the scanner finds a number
exactly where a text of this grammar stands and neither a digit nor a point nor an `e` follows.
In particular it never takes the beginning of a longer literal that is malformed.

The scanner reads digits as far as they go, so each part of the grammar is read back before any
text that does not go on with it: `Number.scanMantissa_append`, `Number.scanExponent_append`.
-/

namespace ColumnarSql
namespace Number

/-- Digits of ASCII and nothing else. -/
def AllDigits (text : List Char) : Prop :=
  ∀ c ∈ text, c.isDigit = true

/-- `D+ ('.' D*)? | '.' D+` -/
inductive Mantissa : List Char → Prop
  /-- `D+` -/
  | whole {before : List Char} (hne : before ≠ []) (hbefore : AllDigits before) :
      Mantissa before
  /-- `D+ '.' D*` -/
  | decimal {before after : List Char} (hne : before ≠ []) (hbefore : AllDigits before)
      (hafter : AllDigits after) : Mantissa (before ++ '.' :: after)
  /-- `'.' D+` -/
  | fraction {after : List Char} (hne : after ≠ []) (hafter : AllDigits after) :
      Mantissa ('.' :: after)

/-- `('e' ('+' | '-')? D+)?` -/
inductive Exponent : List Char → Prop
  | none : Exponent []
  /-- `'e' ('+' | '-')? D+` -/
  | some {sign exponent : List Char} (hsign : sign = [] ∨ sign = ['+'] ∨ sign = ['-'])
      (hne : exponent ≠ []) (hexponent : AllDigits exponent) :
      Exponent ('e' :: (sign ++ exponent))

/-- **Numbers**: a mantissa and perhaps an exponent. -/
def IsNumber (text : List Char) : Prop :=
  ∃ mantissa exponent, Mantissa mantissa ∧ Exponent exponent ∧ mantissa ++ exponent = text

/-! ## Digits -/

theorem allDigits_digits (source : List Char) : AllDigits (digits source) :=
  fun _ hc => List.mem_takeWhile_imp hc

theorem digits_append {text rest : List Char} (htext : AllDigits text)
    (hrest : Ends Char.isDigit rest) : digits (text ++ rest) = text :=
  takeWhile_append_of_ends htext hrest

theorem afterDigits_append {text rest : List Char} (htext : AllDigits text)
    (hrest : Ends Char.isDigit rest) : afterDigits (text ++ rest) = rest :=
  dropWhile_append_of_ends htext hrest

/-! ## Reading the parts -/

theorem mantissa_of_scanMantissa {source mantissa rest : List Char}
    (h : scanMantissa source = some (mantissa, rest)) : Mantissa mantissa := by
  unfold scanMantissa at h
  split at h
  · next after _ =>
    split at h
    · simp at h
    · next hdigits =>
      obtain ⟨rfl, -⟩ := Prod.mk.inj (Option.some.inj h)
      by_cases hbefore : digits source = []
      · rw [hbefore, List.nil_append]
        exact .fraction (fun hafter => hdigits ⟨hbefore, hafter⟩) (allDigits_digits after)
      · exact .decimal hbefore (allDigits_digits source) (allDigits_digits after)
  · split at h
    · simp at h
    · next hdigits =>
      obtain ⟨rfl, -⟩ := Prod.mk.inj (Option.some.inj h)
      exact .whole hdigits (allDigits_digits source)

theorem scanMantissa_append {mantissa rest : List Char} (h : Mantissa mantissa)
    (hdigit : Ends Char.isDigit rest) (hpoint : Ends (· == '.') rest) :
    scanMantissa (mantissa ++ rest) = some (mantissa, rest) := by
  have hstops : ∀ after : List Char, Ends Char.isDigit ('.' :: after) :=
    fun after => ends_cons_iff.2 (by decide)
  cases h with
  | whole hne hbefore =>
    unfold scanMantissa
    rw [afterDigits_append hbefore hdigit, digits_append hbefore hdigit]
    split
    · next rest' => simp [ends_cons_iff] at hpoint
    · rw [if_neg hne]
  | @decimal before after hne hbefore hafter =>
    rw [List.append_assoc, List.cons_append, scanMantissa, afterDigits_append hbefore (hstops _),
      digits_append hbefore (hstops _)]
    simp only [digits_append hafter hdigit, afterDigits_append hafter hdigit]
    rw [if_neg fun hnil => hne hnil.1]
  | @fraction after hne hafter =>
    have hnil : AllDigits [] := by
      simp [AllDigits]
    have hnone : digits ('.' :: (after ++ rest)) = [] := digits_append hnil (hstops _)
    have hall : afterDigits ('.' :: (after ++ rest)) = '.' :: (after ++ rest) :=
      afterDigits_append hnil (hstops _)
    rw [List.cons_append, scanMantissa, hall, hnone]
    simp only [digits_append hafter hdigit, afterDigits_append hafter hdigit]
    rw [if_neg fun hnil => hne hnil.2, List.nil_append]

theorem exponent_of_scanExponent {source exponent rest : List Char}
    (h : scanExponent source = some (exponent, rest)) : Exponent exponent := by
  unfold scanExponent at h
  split at h
  · next after =>
    split at h
    · simp at h
    · next hdigits =>
      obtain ⟨rfl, -⟩ := Prod.mk.inj (Option.some.inj h)
      refine .some ?_ hdigits (allDigits_digits _)
      unfold scanSign
      split <;> simp
  · obtain ⟨rfl, -⟩ := Prod.mk.inj (Option.some.inj h)
    exact .none

/-- A sign is read off what follows it, and digits begin with no sign. -/
theorem scanSign_append {sign exponent rest : List Char}
    (hsign : sign = [] ∨ sign = ['+'] ∨ sign = ['-']) (hne : exponent ≠ [])
    (hexponent : AllDigits exponent) :
    scanSign (sign ++ exponent ++ rest) = (sign, exponent ++ rest) := by
  rcases hsign with rfl | rfl | rfl
  · obtain ⟨c, exponent, rfl⟩ := List.exists_cons_of_ne_nil hne
    have hc : c.isDigit = true := hexponent c List.mem_cons_self
    rw [List.nil_append, List.cons_append]
    unfold scanSign
    split
    · next heq => rw [(List.cons.inj heq).1] at hc; simp at hc
    · next heq => rw [(List.cons.inj heq).1] at hc; simp at hc
    · rfl
  · rfl
  · rfl

theorem scanExponent_append {exponent rest : List Char} (h : Exponent exponent)
    (hrest : Ends isNumberChar rest) : scanExponent (exponent ++ rest) = some (exponent, rest) := by
  cases h with
  | none =>
    rw [List.nil_append]
    unfold scanExponent
    split
    · next rest' => simp [ends_cons_iff, isNumberChar] at hrest
    · rfl
  | @some sign exponent hsign hne hexponent =>
    have hdigit : Ends Char.isDigit rest :=
      hrest.mono fun c hc => by simp_all [isNumberChar]
    rw [List.cons_append, scanExponent, scanSign_append hsign hne hexponent]
    simp only [digits_append hexponent hdigit, afterDigits_append hexponent hdigit]
    rw [if_neg hne]

/-- An exponent ends the mantissa before it. -/
theorem Exponent.ends {exponent rest : List Char} (h : Exponent exponent)
    (hrest : Ends isNumberChar rest) :
    Ends Char.isDigit (exponent ++ rest) ∧ Ends (· == '.') (exponent ++ rest) := by
  cases h with
  | none => exact ⟨hrest.mono fun c hc => by simp_all [isNumberChar],
      hrest.mono fun c hc => by simp_all [isNumberChar]⟩
  | some => exact ⟨ends_cons_iff.2 (by decide), ends_cons_iff.2 (by decide)⟩

/-! ## Reading a number -/

/-- **Numbers are read exactly by their grammar**, where neither a digit nor a point nor an
`e` follows. -/
theorem scan_eq_some_iff {source : List Char} {lexeme : Lexeme} :
    scan source = some lexeme ↔
      lexeme.text ++ lexeme.rest = source ∧ IsNumber lexeme.text ∧
        lexeme.token = some (.number, String.ofList lexeme.text) ∧
        Ends isNumberChar lexeme.rest := by
  constructor
  · intro h
    have hsplits := scan_splits h
    unfold scan at h
    split at h
    · simp at h
    · next mantissa afterMantissa hmantissa =>
      split at h
      · simp at h
      · next exponent rest hexponent =>
        split at h
        · simp at h
        · next hnext =>
          obtain rfl := Option.some.inj h
          exact ⟨hsplits, ⟨mantissa, exponent, mantissa_of_scanMantissa hmantissa,
            exponent_of_scanExponent hexponent, rfl⟩, rfl,
            any_head?_eq_false_iff.1 (by simpa using hnext)⟩
  · obtain ⟨text, token, rest⟩ := lexeme
    rintro ⟨hsource, ⟨mantissa, exponent, hmantissa, hexponent, htext⟩, htoken, hrest⟩
    obtain rfl : mantissa ++ exponent = text := htext
    obtain rfl : token = some (.number, String.ofList (mantissa ++ exponent)) := htoken
    obtain ⟨hdigit, hpoint⟩ := hexponent.ends hrest
    have hnone : rest.head?.any isNumberChar = false := any_head?_eq_false_iff.2 hrest
    rw [← hsource, scan, List.append_assoc, scanMantissa_append hmantissa hdigit hpoint]
    simp only [scanExponent_append hexponent hrest, hnone]
    rfl

/-- A number begins with a digit or a point. -/
theorem IsNumber.head {text : List Char} (h : IsNumber text) :
    ∃ c rest, text = c :: rest ∧ (c.isDigit = true ∨ c = '.') := by
  obtain ⟨mantissa, exponent, hmantissa, -, rfl⟩ := h
  cases hmantissa with
  | whole hne hbefore =>
    obtain ⟨c, rest, rfl⟩ := List.exists_cons_of_ne_nil hne
    exact ⟨c, _, rfl, .inl (hbefore c List.mem_cons_self)⟩
  | decimal hne hbefore hafter =>
    obtain ⟨c, rest, rfl⟩ := List.exists_cons_of_ne_nil hne
    exact ⟨c, _, rfl, .inl (hbefore c List.mem_cons_self)⟩
  | fraction hne hafter => exact ⟨'.', _, rfl, .inr rfl⟩

theorem scan_of_not_start {c : Char} (hdigit : c.isDigit = false) (hpoint : c ≠ '.')
    (rest : List Char) : scan (c :: rest) = none := by
  rw [Option.eq_none_iff_forall_ne_some]
  intro lexeme hfound
  obtain ⟨hsource, hnumber, -, -⟩ := scan_eq_some_iff.1 hfound
  obtain ⟨c', text, htext, hstart⟩ := hnumber.head
  rw [htext, List.cons_append] at hsource
  obtain rfl := (List.cons.inj hsource).1
  rcases hstart with hstart | hstart
  · simp [hstart] at hdigit
  · exact hpoint hstart

end Number
end ColumnarSql
