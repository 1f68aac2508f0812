import Rubric.Proofs.NearestFloat

namespace Rubric.Decimal

section grammar

/-- A sign that may stand in front of digits. -/
inductive SignSpelling : List Char → Bool → Prop
  | missing : SignSpelling [] false
  | plus : SignSpelling ['+'] false
  | minus : SignSpelling ['-'] true

def Digits (cs : List Char) : Prop :=
  ∀ c ∈ cs, c.isDigit = true

/-- Digits with at most one point among them, and at least one digit. -/
inductive DigitsSpelling : List Char → List Char → List Char → Prop
  | whole {whole : List Char} : Digits whole → whole ≠ [] → DigitsSpelling whole whole []
  | point {whole fraction : List Char} : Digits whole → Digits fraction → whole ++ fraction ≠ [] →
      DigitsSpelling (whole ++ '.' :: fraction) whole fraction

/-- An exponent, which may be missing. -/
inductive ExponentSpelling : List Char → Int → Prop
  | missing : ExponentSpelling [] 0
  | given {mark : Char} {sign ds : List Char} {negative : Bool} : mark = 'e' ∨ mark = 'E' →
      SignSpelling sign negative → Digits ds → ds ≠ [] →
      ExponentSpelling (mark :: (sign ++ ds))
        (if negative then -(digitsValue ds : Int) else digitsValue ds)

/-- A text that is a numeral from its first to its last character. -/
inductive Numeral.Spelling : List Char → Numeral → Prop
  | mk {sign digits whole fraction tail : List Char} {negative : Bool} {exponent : Int} :
      SignSpelling sign negative → DigitsSpelling digits whole fraction →
      ExponentSpelling tail exponent →
      Numeral.Spelling (sign ++ (digits ++ tail))
        ⟨negative, digitsValue (whole ++ fraction), exponent - fraction.length⟩

end grammar

variable {cs sign digits whole fraction tail rest : List Char} {negative : Bool} {e : Int}
  {n : Numeral}

theorem digits_takeDigits (cs : List Char) : Digits (takeDigits cs).1 :=
  fun _ => isDigit_of_mem_takeDigits

theorem spelling_takeSign (cs : List Char) :
    ∃ sign, SignSpelling sign (takeSign cs).1 ∧ sign ++ (takeSign cs).2 = cs := by
  rw [takeSign.eq_def]
  split
  · exact ⟨_, .minus, rfl⟩
  · exact ⟨_, .plus, rfl⟩
  · exact ⟨_, .missing, rfl⟩

theorem SignSpelling.takeSign_append (h : SignSpelling sign negative)
    (hrest : ∀ c ∈ rest.head?, c ≠ '+' ∧ c ≠ '-') :
    takeSign (sign ++ rest) = (negative, rest) := by
  cases h with
  | plus => rfl
  | minus => rfl
  | missing =>
    rw [List.nil_append, takeSign.eq_3]
    · rintro cs rfl
      exact (hrest '-' rfl).2 rfl
    · rintro cs rfl
      exact (hrest '+' rfl).1 rfl

theorem Digits.ne_sign (h : Digits cs) : ∀ c ∈ cs.head?, c ≠ '+' ∧ c ≠ '-' := by
  intro c hc
  have hdigit := h c (List.mem_of_mem_head? hc)
  constructor
  · rintro rfl
    cases hdigit
  · rintro rfl
    cases hdigit

theorem readExponent_eq_some_iff : readExponent cs = some e ↔ ExponentSpelling cs e := by
  constructor
  · intro h
    cases cs with
    | nil =>
      cases h
      exact .missing
    | cons mark cs =>
      rw [readExponent] at h
      split at h
      · next hmark =>
        obtain ⟨sign, hsign, hcs⟩ := spelling_takeSign cs
        generalize takeSign cs = signed at h hsign hcs
        obtain ⟨negative, after⟩ := signed
        have hdigits := digits_takeDigits after
        have happend := takeDigits_append after
        dsimp only at h hsign hcs
        generalize takeDigits after = taken at h hdigits happend
        obtain ⟨ds, rest⟩ := taken
        dsimp only at h hdigits happend
        split at h
        · cases h
        · next hends =>
          obtain ⟨hne, hrest⟩ : ds ≠ [] ∧ rest = [] := by
            simpa only [Bool.or_eq_true, not_or, Bool.not_eq_eq_eq_not, Bool.not_true,
              List.isEmpty_iff, Bool.not_eq_false] using hends
          rw [hrest, List.append_nil] at happend
          rw [← hcs, ← happend, ← Option.some.inj h]
          exact .given hmark hsign hdigits hne
      · cases h
  · intro h
    cases h with
    | missing => rfl
    | given hmark hsign hds hne =>
      have hnonempty := List.isEmpty_eq_false_iff.2 hne
      rw [readExponent, if_pos hmark, hsign.takeSign_append hds.ne_sign]
      dsimp only
      rw [takeDigits_of_digits hds, hnonempty]
      rfl

theorem ExponentSpelling.head (h : ExponentSpelling tail e) :
    ∀ c ∈ tail.head?, c.isDigit = false ∧ c ≠ '.' := by
  intro c hc
  cases h with
  | missing => cases hc
  | given hmark =>
    cases hc
    obtain rfl | rfl := hmark
    · exact ⟨rfl, by decide⟩
    · exact ⟨rfl, by decide⟩

theorem spelling_takeFraction (cs : List Char)
    (h : ((takeDigits cs).1.isEmpty && (takeFraction (takeDigits cs).2).1.isEmpty) = false) :
    ∃ digits, DigitsSpelling digits (takeDigits cs).1 (takeFraction (takeDigits cs).2).1 ∧
      digits ++ (takeFraction (takeDigits cs).2).2 = cs := by
  have hwhole := digits_takeDigits cs
  have happend := takeDigits_append cs
  generalize takeDigits cs = taken at h hwhole happend ⊢
  obtain ⟨whole, rest⟩ := taken
  dsimp only at h hwhole happend ⊢
  rw [takeFraction.eq_def] at h ⊢
  split at h
  · next after =>
    have hfraction := digits_takeDigits after
    refine ⟨_, .point hwhole hfraction ?_, ?_⟩
    · intro hnil
      obtain ⟨hw, hf⟩ := List.append_eq_nil_iff.1 hnil
      rw [hw, hf] at h
      cases h
    · rw [List.append_assoc, List.cons_append, takeDigits_append, happend]
  · refine ⟨whole, .whole hwhole ?_, happend⟩
    rintro rfl
    cases h

theorem DigitsSpelling.takeFraction_append (h : DigitsSpelling digits whole fraction)
    (htail : ∀ c ∈ tail.head?, c.isDigit = false ∧ c ≠ '.') :
    (whole.isEmpty && fraction.isEmpty) = false ∧
      ∃ rest, takeDigits (digits ++ tail) = (whole, rest) ∧
        takeFraction rest = (fraction, tail) := by
  have hrest : ∀ c ∈ tail.head?, c.isDigit = false := fun c hc => (htail c hc).1
  cases h with
  | whole hwhole hne =>
    refine ⟨?_, tail, takeDigits_append_rest hwhole hrest, ?_⟩
    · rw [List.isEmpty_eq_false_iff.2 hne]
      rfl
    · rw [takeFraction.eq_2]
      rintro cs rfl
      exact (htail '.' rfl).2 rfl
  | point hwhole hfraction hne =>
    refine ⟨?_, '.' :: (fraction ++ tail), ?_, takeDigits_append_rest hfraction hrest⟩
    · cases whole with
      | nil => exact List.isEmpty_eq_false_iff.2 hne
      | cons c cs => rfl
    · rw [List.append_assoc, List.cons_append]
      refine takeDigits_append_rest hwhole ?_
      rintro c ⟨⟩
      rfl

theorem DigitsSpelling.ne_sign (h : DigitsSpelling digits whole fraction) :
    ∀ c ∈ (digits ++ tail).head?, c ≠ '+' ∧ c ≠ '-' := by
  cases h with
  | whole hwhole hne =>
    obtain ⟨c, cs, rfl⟩ := List.exists_cons_of_ne_nil hne
    exact hwhole.ne_sign
  | point hwhole hfraction hne =>
    cases whole with
    | nil =>
      rintro c ⟨⟩
      decide
    | cons c cs => exact hwhole.ne_sign

/-- A text is read as a numeral exactly if it spells the numeral. -/
theorem Numeral.ofChars?_eq_some_iff : Numeral.ofChars? cs = some n ↔ Numeral.Spelling cs n := by
  constructor
  · intro h
    obtain ⟨sign, hsign, hcs⟩ := spelling_takeSign cs
    rw [Numeral.ofChars?] at h
    generalize takeSign cs = signed at h hsign hcs
    obtain ⟨negative, after⟩ := signed
    dsimp only at h hsign hcs
    split at h
    · cases h
    · next hempty =>
      obtain ⟨digits, hdigits, hafter⟩ := spelling_takeFraction after (Bool.eq_false_iff.2 hempty)
      generalize takeDigits after = taken at h hdigits hafter
      obtain ⟨whole, rest⟩ := taken
      dsimp only at h hdigits hafter
      generalize takeFraction rest = taken at h hdigits hafter
      obtain ⟨fraction, tail⟩ := taken
      dsimp only at h hdigits hafter
      cases hexponent : readExponent tail with
      | none =>
        rw [hexponent] at h
        cases h
      | some e =>
        rw [hexponent] at h
        cases h
        rw [← hcs, ← hafter]
        exact .mk hsign hdigits (readExponent_eq_some_iff.1 hexponent)
  · rintro ⟨hsign, hdigits, hexponent⟩
    obtain ⟨hnonempty, rest, hwhole, hfraction⟩ := hdigits.takeFraction_append hexponent.head
    have hread := readExponent_eq_some_iff.2 hexponent
    rw [Numeral.ofChars?, hsign.takeSign_append hdigits.ne_sign]
    dsimp only
    rw [hwhole]
    dsimp only
    rw [hfraction]
    dsimp only
    rw [hnonempty, if_neg Bool.false_ne_true, hread]
    rfl

end Rubric.Decimal

namespace Rubric

open Decimal

variable {text : String} {x : Float} {e : ValueError}

theorem readNumber_eq_ok_iff :
    readNumber text = .ok x ↔
      ∃ n, Numeral.Spelling (Text.trimChars text.toList) n ∧ n.RoundsTo x := by
  simp only [← Numeral.ofChars?_eq_some_iff, Numeral.roundsTo_iff]
  rw [readNumber]
  cases Numeral.ofChars? (Text.trimChars text.toList) with
  | none =>
    constructor
    · intro h
      cases h
    · rintro ⟨n, hn, -⟩
      cases hn
  | some n =>
    dsimp only
    split
    · next hfinite =>
      constructor
      · intro h
        exact ⟨n, rfl, hfinite, Except.ok.inj h⟩
      · rintro ⟨n', hn, -, hx⟩
        cases hn
        rw [hx]
    · next hinfinite =>
      constructor
      · intro h
        cases h
      · rintro ⟨n', hn, hfinite, -⟩
        cases hn
        exact absurd hfinite hinfinite

theorem readNumber_eq_error_iff :
    readNumber text = .error e ↔ e = .notNumeric text ∧
      ∀ n, Numeral.Spelling (Text.trimChars text.toList) n → Dyadic.overflow ≤ n.magnitude := by
  simp only [← Numeral.ofChars?_eq_some_iff, ← not_lt, ← Numeral.isFinite_toFloat_iff]
  rw [readNumber]
  cases Numeral.ofChars? (Text.trimChars text.toList) with
  | none =>
    constructor
    · intro h
      refine ⟨(Except.error.inj h).symm, ?_⟩
      intro n hn
      cases hn
    · rintro ⟨rfl, -⟩
      rfl
  | some n =>
    dsimp only
    split
    · next hfinite =>
      constructor
      · intro h
        cases h
      · rintro ⟨-, hall⟩
        exact absurd hfinite (hall n rfl)
    · next hinfinite =>
      constructor
      · intro h
        refine ⟨(Except.error.inj h).symm, ?_⟩
        intro n' hn
        cases hn
        exact hinfinite
      · rintro ⟨rfl, -⟩
        rfl

/-- A text is read as a number exactly if it spells, between white space, a numeral that rounds to
a finite double; any other text is named in the error as it stands. -/
theorem readNumber_grammar (text : String) :
    (∀ x, readNumber text = .ok x ↔
      ∃ n, Numeral.Spelling (Text.trimChars text.toList) n ∧ n.RoundsTo x) ∧
    (∀ e, readNumber text = .error e ↔ e = .notNumeric text ∧
      ∀ n, Numeral.Spelling (Text.trimChars text.toList) n → Dyadic.overflow ≤ n.magnitude) :=
  ⟨fun _ => readNumber_eq_ok_iff, fun _ => readNumber_eq_error_iff⟩

end Rubric
