import Chitragupt.Ingestion.PiiShapes

/-!
# Phone numbers and email addresses

The email pattern runs first, and takes a part of a phone number away where an address meets
it.  A phone number with white space in it is replaced in a window of a text exactly when no
email address of the window meets it.
-/

namespace Chitragupt

open Python (isSpace isAsciiLetter isWordCharacter)

/-- Some of these characters are white space. -/
def Spaced (text : Text) (span : Span) : Prop :=
  ∃ position code, span.Holds position ∧ text[position]? = some code ∧ isSpace code = true

variable [Python.CharacterData] {text : Text} {window number address : Span} {position sign : Nat}

/-- The matches that the patterns replace in a window of a text. -/
abbrev ReplacesPii (text : Text) (window : Span) (replaced : Rule Nat → Span → Prop) : Prop :=
  Rule.Replaces isWordCharacter email [phone, ssn, card] text window replaced

/-- Matches of a pattern without white space are not spaced. -/
theorem not_spaced {rule : Rule Nat} {span : Span}
    (solid : rule.body.Over fun code => isSpace code = false)
    (matched : rule.MatchesAt isWordCharacter text span) : ¬Spaced text span := by
  rintro ⟨position, code, held, here, space⟩
  rcases exists_allowed solid matched held with ⟨other, there, notSpace⟩
  rw [here, Option.some.injEq] at there
  rw [← there, space] at notSpace
  cases notSpace

/-- Where a phone number with white space and an email address meet, the name of the address
is. -/
theorem lt_sign_of_meets (matched : phone.MatchesAt isWordCharacter text number)
    (spaced : Spaced text number) (email' : email.MatchesAt isWordCharacter text address)
    (first : address.start ≤ sign) (at' : text[sign]? = some 64)
    (last : ∃ code, text[address.stop - 1]? = some code ∧ isAsciiLetter code = true)
    (held : number.Holds position) (inside : address.Holds position) : position < sign := by
  by_contra late
  have apart : ∀ place, number.Holds place → ∀ code, text[place]? = some code →
      ¬(code = 64 ∨ isAsciiLetter code = true) := by
    intro place holds code here
    rcases exists_allowed over_phone matched holds with ⟨other, there, outside⟩
    rw [here, Option.some.injEq] at there
    rwa [there]
  rcases last with ⟨code, letter, isLetter⟩
  have lower := held.1
  have upper := held.2
  have bound := inside.2
  by_cases early : number.start ≤ sign
  · exact apart sign ⟨early, by omega⟩ 64 at' (.inl rfl)
  · by_cases far : address.stop ≤ number.stop
    · exact apart (address.stop - 1) ⟨by omega, by omega⟩ code letter (.inr isLetter)
    · -- The number lies in the address, which has no white space.
      rcases spaced with ⟨place, white, holds, there⟩
      have within : address.Holds place := ⟨by have := holds.1; omega, by have := holds.2; omega⟩
      exact not_spaced solid_email email' ⟨place, white, within, there⟩

section Replaced

variable {replaced : Rule Nat → Span → Prop} (replaces : ReplacesPii text window replaced)

include replaces

/-- All of the name of an email address is replaced by the email pattern: an address that ends
inside leaves one that starts there. -/
theorem exists_replaced_of_name (covers : window.Covers address)
    (cut : ∀ start, address.start ≤ start → start < sign → Edge text start →
      email.MatchesAt isWordCharacter text ⟨start, address.stop⟩)
    (edge : Edge text address.start) (after : address.start ≤ position)
    (before : position < sign) : ∃ other, replaced email other ∧ other.Holds position := by
  induction position, after using Nat.le_induction with
  | base => exact replaces.starts _ (cut _ le_rfl before edge) covers
  | succ position after ih =>
      rcases ih (Nat.lt_of_succ_lt before) with ⟨other, replaced', held⟩
      by_cases longer : position + 1 < other.stop
      · exact ⟨other, replaced', held.1.trans (Nat.le_succ _), longer⟩
      · have stop : other.stop = position + 1 := le_antisymm (not_lt.mp longer) held.2
        have boundary := edge_stop (replaces.matched _ _ replaced').2.1
        rw [stop] at boundary
        have later := cut (position + 1) (after.trans (Nat.le_succ _)) before boundary
        exact replaces.starts _ later ⟨covers.1.trans (after.trans (Nat.le_succ _)), covers.2⟩

/-- What is replaced of a phone number is replaced by the email pattern or with all of it. -/
theorem replaced_cases {other : Span} {rule : Rule Nat}
    (matched : phone.MatchesAt isWordCharacter text number)
    (replaced' : replaced rule other) (meets : other.Meets number) :
    rule = email ∨ rule = phone ∧ other = number := by
  rcases replaces.matched _ _ replaced' with ⟨present, here, _⟩
  rw [List.mem_cons, List.mem_cons, List.mem_cons, List.mem_singleton] at present
  rcases present with rfl | rfl | rfl | rfl
  · exact .inl rfl
  · exact .inr ⟨rfl, eq_of_meets_phone here matched meets⟩
  · exact absurd meets.symm (not_meets_ssn matched here)
  · exact absurd meets.symm (not_meets_card matched here)

/-- Where an email address meets a phone number with white space, the email pattern replaces. -/
theorem exists_replaced_of_meets (matched : phone.MatchesAt isWordCharacter text number)
    (spaced : Spaced text number) (email' : email.MatchesAt isWordCharacter text address)
    (covers : window.Covers address) (held : number.Holds position)
    (here : address.Holds position) : ∃ other, replaced email other ∧ other.Holds position := by
  rcases email_parts email' with ⟨sign, first, _, at', last, cut⟩
  have early := lt_sign_of_meets matched spaced email' first at' last held here
  exact exists_replaced_of_name replaces covers cut (edge_start email') here.1 early

/-- A phone number with white space is not replaced where an address of the window meets it. -/
theorem not_meets_of_replaced (replaced' : replaced phone number) (spaced : Spaced text number)
    (email' : email.MatchesAt isWordCharacter text address) (covers : window.Covers address) :
    ¬address.Meets number := by
  have labels : phone.label ≠ email.label := by decide
  rintro ⟨place, here, held⟩
  rcases exists_replaced_of_meets replaces (replaces.matched _ _ replaced').2.1 spaced email'
    covers held here with ⟨other, replaced'', inside⟩
  exact labels (replaces.apart _ _ _ _ replaced' replaced'' ⟨place, held, inside⟩).1

/-- A phone number that no address meets is replaced. -/
theorem replaced_of_not_meets (matched : phone.MatchesAt isWordCharacter text number)
    (covers : window.Covers number)
    (none' : ∀ address, email.MatchesAt isWordCharacter text address → ¬address.Meets number) :
    replaced phone number := by
  rcases replaces.edged phone (by simp) shapedBy_phone.wordEdged number matched covers with
    ⟨rule, other, replaced', meets⟩
  rcases replaced_cases replaces matched replaced' meets with rfl | ⟨rfl, rfl⟩
  · exact absurd meets (none' other (replaces.matched _ _ replaced').2.1)
  · exact replaced'

end Replaced

end Chitragupt
