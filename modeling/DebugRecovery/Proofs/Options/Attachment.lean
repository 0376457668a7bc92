import DebugRecovery.Proofs.Options

/-!
# Pieces of a command line

A line falls apart into pieces in exactly one way: tokens that stand for
themselves, and flags for a compiler option, each with the token behind it, up to
the end, to a flag that nothing follows or to a separator that no flag took. The
attachment of compiler options makes one token of every flag with its value and
leaves all else in its place, so that a second one changes nothing.
-/

set_option autoImplicit false

namespace DebugRecovery.Options

/-- A token that neither takes the next one nor ends the flags. -/
def IsOrdinary (token : String) : Prop := ¬IsCoptionFlag token ∧ token ≠ separatorText

/-- A token that stays as it is, or a flag with its value. The value may be anything, a flag or a
separator too. -/
inductive Piece where
  | kept (token : String) (ordinary : IsOrdinary token)
  | taken (flag value : String) (flagged : IsCoptionFlag flag)

/-- What no piece opens: the end, a flag that nothing follows, or a separator and all behind it. -/
inductive Remainder where
  | nothing
  | lone (flag : String) (flagged : IsCoptionFlag flag)
  | separated (rest : List String)

namespace Piece

def tokens : Piece → List String
  | .kept token _ => [token]
  | .taken flag value _ => [flag, value]

/-- The one token that a piece becomes. -/
def glued : Piece → String
  | .kept token _ => token
  | .taken _ value _ => "--coptions=" ++ value

end Piece

def Remainder.tokens : Remainder → List String
  | .nothing => []
  | .lone flag _ => [flag]
  | .separated rest => separatorText :: rest

/-- The pieces of a line, and what remains behind them. -/
structure Division (line : List String) where
  pieces : List Piece
  remainder : Remainder
  whole : pieces.flatMap Piece.tokens ++ remainder.tokens = line

variable {token : String} {line rest others : List String}

theorem piece_or_remainder_opens (line : List String) :
    (∃ (piece : Piece) (rest : List String), piece.tokens ++ rest = line) ∨
      ∃ remainder : Remainder, remainder.tokens = line := by
  cases line with
  | nil => exact .inr ⟨.nothing, rfl⟩
  | cons token rest =>
      by_cases separates : token = separatorText
      · rw [separates]
        exact .inr ⟨.separated rest, rfl⟩
      by_cases flagged : IsCoptionFlag token
      · cases rest with
        | nil => exact .inr ⟨.lone token flagged, rfl⟩
        | cons value rest => exact .inl ⟨.taken token value flagged, rest, rfl⟩
      · exact .inl ⟨.kept token ⟨flagged, separates⟩, rest, rfl⟩

theorem piece_nonempty (piece : Piece) : 0 < piece.tokens.length := by
  cases piece with
  | kept => exact Nat.one_pos
  | taken => exact Nat.two_pos

theorem division_exists (line : List String) : Nonempty (Division line) := by
  rcases piece_or_remainder_opens line with ⟨piece, rest, opens⟩ | ⟨remainder, remains⟩
  · -- A piece is one token or two, so that the recursion is on the number of tokens left.
    have shorter : rest.length < line.length := by
      have nonempty := piece_nonempty piece
      rw [← opens, List.length_append]
      omega
    obtain ⟨pieces, remainder, whole⟩ := division_exists rest
    refine ⟨piece :: pieces, remainder, ?_⟩
    rw [List.flatMap_cons, List.append_assoc, whole, opens]
  · exact ⟨[], remainder, remains⟩
termination_by line.length

theorem separator_not_flag : ¬IsCoptionFlag separatorText := by decide

/-- The first token tells what opens a line, and the value of a flag counts as nothing else. -/
theorem first_piece_unique {first second : Piece}
    (same : first.tokens ++ rest = second.tokens ++ others) : first = second ∧ rest = others := by
  cases first with
  | kept token ordinary =>
      cases second with
      | kept =>
          obtain ⟨rfl, rests⟩ := List.cons.inj same
          exact ⟨rfl, rests⟩
      | taken _ _ flagged =>
          obtain ⟨rfl, _⟩ := List.cons.inj same
          exact absurd flagged ordinary.1
  | taken flag value flagged =>
      cases second with
      | kept _ ordinary =>
          obtain ⟨rfl, _⟩ := List.cons.inj same
          exact absurd flagged ordinary.1
      | taken =>
          obtain ⟨rfl, values⟩ := List.cons.inj same
          obtain ⟨rfl, rests⟩ := List.cons.inj values
          exact ⟨rfl, rests⟩

theorem piece_opens_no_remainder (piece : Piece) (remainder : Remainder) :
    piece.tokens ++ rest ≠ remainder.tokens := by
  intro same
  cases remainder with
  | nothing =>
      cases piece with
      | kept => contradiction
      | taken => contradiction
  | lone flag flagged =>
      cases piece with
      | kept _ ordinary =>
          obtain ⟨rfl, _⟩ := List.cons.inj same
          exact ordinary.1 flagged
      | taken => exact List.cons_ne_nil _ _ (List.cons.inj same).2
  | separated =>
      cases piece with
      | kept _ ordinary => exact ordinary.2 (List.cons.inj same).1
      | taken _ _ flagged =>
          obtain ⟨rfl, _⟩ := List.cons.inj same
          exact separator_not_flag flagged

theorem remainder_unique {first second : Remainder} (same : first.tokens = second.tokens) :
    first = second := by
  cases first with
  | nothing =>
      cases second with
      | nothing => rfl
      | lone => contradiction
      | separated => contradiction
  | lone flag flagged =>
      cases second with
      | nothing => contradiction
      | lone =>
          obtain ⟨rfl, _⟩ := List.cons.inj same
          rfl
      | separated =>
          obtain ⟨rfl, _⟩ := List.cons.inj same
          exact absurd flagged separator_not_flag
  | separated =>
      cases second with
      | nothing => contradiction
      | lone _ flagged =>
          obtain ⟨rfl, _⟩ := List.cons.inj same
          exact absurd flagged separator_not_flag
      | separated =>
          obtain ⟨_, rfl⟩ := List.cons.inj same
          rfl

theorem pieces_unique {first second : List Piece} {remainder other : Remainder}
    (same : first.flatMap Piece.tokens ++ remainder.tokens =
      second.flatMap Piece.tokens ++ other.tokens) : first = second ∧ remainder = other := by
  induction first generalizing second with
  | nil =>
      cases second with
      | nil => exact ⟨rfl, remainder_unique same⟩
      | cons piece pieces =>
          rw [List.flatMap_cons, List.append_assoc] at same
          exact absurd same.symm (piece_opens_no_remainder piece remainder)
  | cons piece pieces induction =>
      rw [List.flatMap_cons, List.append_assoc] at same
      cases second with
      | nil => exact absurd same (piece_opens_no_remainder piece other)
      | cons =>
          rw [List.flatMap_cons, List.append_assoc] at same
          obtain ⟨rfl, rests⟩ := first_piece_unique same
          obtain ⟨rfl, rfl⟩ := induction rests
          exact ⟨rfl, rfl⟩

theorem division_unique (first second : Division line) : first = second := by
  obtain ⟨pieces, remainder, whole⟩ := first
  obtain ⟨others, other, another⟩ := second
  obtain ⟨rfl, rfl⟩ := pieces_unique (whole.trans another.symm)
  rfl

theorem attach_ordinary (ordinary : IsOrdinary token) (rest : List String) :
    attach (token :: rest) = token :: attach rest := by
  have other : isCoption token = false :=
    Bool.eq_false_iff.mpr fun flag => ordinary.1 ((is_coption_iff token).mp flag)
  exact attach_other token rest other ordinary.2

theorem attach_piece (piece : Piece) (rest : List String) :
    attach (piece.tokens ++ rest) = piece.glued :: attach rest := by
  cases piece with
  | kept token ordinary => exact attach_ordinary ordinary rest
  | taken flag value flagged =>
      obtain ⟨taken, apart⟩ := coption_flag_taken flagged
      exact attach_flag flag value rest taken apart

theorem attach_remainder (remainder : Remainder) :
    attach remainder.tokens = remainder.tokens := by
  cases remainder with
  | nothing => rfl
  | lone => rfl
  | separated rest => exact attach_separator rest

/-- The pieces come out as they do whatever stands behind them. -/
theorem attach_pieces (pieces : List Piece) (rest : List String) :
    attach (pieces.flatMap Piece.tokens ++ rest) = pieces.map Piece.glued ++ attach rest := by
  induction pieces with
  | nil => rfl
  | cons piece pieces induction =>
      rw [List.flatMap_cons, List.append_assoc, attach_piece, induction]
      rfl

theorem attach_divided (division : Division line) :
    attach line = division.pieces.map Piece.glued ++ division.remainder.tokens := by
  obtain ⟨pieces, remainder, rfl⟩ := division
  rw [attach_pieces, attach_remainder]

theorem attached_not_flag (value : String) : ¬IsCoptionFlag (attached value) := by
  intro flagged
  -- Each form of the flag is shorter than the long form with an equals sign.
  have characters := attached_characters value
  rcases flagged with short | long
  · rw [short] at characters
    exact absurd (congrArg List.length characters) (by simp)
  · rw [long] at characters
    exact absurd (congrArg List.length characters) (by simp)

theorem glued_ordinary (piece : Piece) : IsOrdinary piece.glued := by
  cases piece with
  | kept token ordinary => exact ordinary
  | taken flag value => exact ⟨attached_not_flag value, attached_not_separator value⟩

theorem attach_glued (pieces : List Piece) (rest : List String) :
    attach (pieces.map Piece.glued ++ rest) = pieces.map Piece.glued ++ attach rest := by
  induction pieces with
  | nil => rfl
  | cons piece pieces induction =>
      rw [List.map_cons, List.cons_append, attach_ordinary (glued_ordinary piece), induction]
      rfl

/-- A line has exactly one division. The attachment makes every flag and the token that it takes
the one token of the flag's long form with that value, leaves the other pieces and the remainder as
they are and where they are, and does nothing more when it is done again. -/
theorem pairs_attached_in_place (line : List String) :
    ∃ division : Division line, (∀ other : Division line, other = division) ∧
      attach line = division.pieces.map Piece.glued ++ division.remainder.tokens ∧
      attach (attach line) = attach line := by
  obtain ⟨division⟩ := division_exists line
  have once := attach_divided division
  refine ⟨division, fun other => division_unique other division, once, ?_⟩
  rw [once, attach_glued, attach_remainder]

/-- A separator and flags as values, a token that is glued already, and a separator that is met. -/
example :
    attach ["-d", "--", "a.c", "-d", "-d", "--coptions=-d", "--", "-d", "x"] =
      ["--coptions=--", "a.c", "--coptions=-d", "--coptions=-d", "--", "-d", "x"] := by
  decide

end DebugRecovery.Options
