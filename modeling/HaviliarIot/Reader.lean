import Mathlib.Data.List.Basic

/-!
Readers of a prefix of a token string, and what it means for one to delimit an
encoding.

A `Reader` hands back what it decoded and the tokens it did not look at; the
unread tokens are a suffix of the input, carried as a field.  `Delimits` is the
pair of facts a self-delimiting encoding is about: the encoding is read off the
front of any input, and no strict prefix of it is read at all.  Both compose
along `bind` (`Delimits.bind`), so a record is delimited once its fields are.
-/

namespace HaviliarIot

/-- A decoder that consumes a prefix of its input. -/
structure Reader (τ α : Type) where
  /-- The value read and the tokens left, or `none`. -/
  run : List τ → Option (α × List τ)
  /-- Reading only ever moves forward. -/
  suffix : ∀ {input value rest}, run input = some (value, rest) → rest <:+ input

namespace Reader

variable {τ α β : Type}

/-- Read nothing. -/
protected def pure (value : α) : Reader τ α where
  run input := some (value, input)
  suffix read := by
    cases Option.some.inj read
    exact List.suffix_refl _

/-- One reader after another; the second sees what the first left. -/
protected def bind (first : Reader τ α) (second : α → Reader τ β) : Reader τ β where
  run input := (first.run input).bind fun (value, rest) => (second value).run rest
  suffix read := by
    obtain ⟨⟨value, mid⟩, readFirst, readSecond⟩ := Option.bind_eq_some_iff.mp read
    exact ((second value).suffix readSecond).trans (first.suffix readFirst)

instance : Monad (Reader τ) where
  pure := Reader.pure
  bind := Reader.bind

/-- Reject the input. -/
def fail : Reader τ α where
  run _ := none
  suffix read := by cases read

/-- How many tokens are left, consuming none. -/
def remaining : Reader τ Nat where
  run input := some (input.length, input)
  suffix read := by
    cases Option.some.inj read
    exact List.suffix_refl _

/-- The next token. -/
def token : Reader τ τ where
  run
    | [] => none
    | first :: rest => some (first, rest)
  suffix {input value rest} read := by
    cases input with
    | nil => cases read
    | cons first others =>
      cases Option.some.inj read
      exact List.suffix_cons _ _

/-- The next `count` tokens. -/
def take (count : Nat) : Reader τ (List τ) where
  run input := if count ≤ input.length then some (input.take count, input.drop count) else none
  suffix {input value rest} read := by
    split at read
    · cases Option.some.inj read
      exact List.drop_suffix _ _
    · cases read

@[simp] theorem run_bind (first : Reader τ α) (second : α → Reader τ β) (input : List τ) :
    (first >>= second).run input =
      (first.run input).bind fun (value, rest) => (second value).run rest := rfl

@[simp] theorem run_map (f : α → β) (r : Reader τ α) (input : List τ) :
    (f <$> r).run input = (r.run input).map fun (value, rest) => (f value, rest) := by
  change (r >>= fun value => pure (f value)).run input = _
  rw [run_bind]
  cases r.run input with
  | none => rfl
  | some result => rfl

/-- The reader reads `value` off the front of every input that starts with
`tokens`, and reads nothing from a strict prefix of `tokens`. -/
structure Delimits (r : Reader τ α) (tokens : List τ) (value : α) : Prop where
  reads : ∀ rest, r.run (tokens ++ rest) = some (value, rest)
  truncated : ∀ {part}, part <+: tokens → part ≠ tokens → r.run part = none

variable {r : Reader τ α} {tokens tokens' : List τ} {value : α} {value' : β}

/-- The encoding alone is read to its end. -/
theorem Delimits.reads_alone (delimits : Delimits r tokens value) :
    r.run tokens = some (value, []) := by
  simpa using delimits.reads []

theorem delimits_pure (value : α) : Delimits (pure value : Reader τ α) [] value where
  reads _ := rfl
  truncated part strict := absurd (List.prefix_nil.mp part) strict

/-- Encodings end to end are delimited by readers one after another. -/
theorem Delimits.bind {second : α → Reader τ β} (first : Delimits r tokens value)
    (next : Delimits (second value) tokens' value') :
    Delimits (r >>= second) (tokens ++ tokens') value' where
  reads rest := by simp [first.reads, next.reads]
  truncated {part} ofWhole strict := by
    rcases List.prefix_or_prefix_of_prefix ofWhole (List.prefix_append tokens tokens') with
      inFirst | ⟨tail, rfl⟩
    · by_cases whole : part = tokens
      · subst whole
        have stops : (second value).run [] = none := by
          refine next.truncated List.nil_prefix fun none => strict ?_
          rw [← none, List.append_nil]
        simp [first.reads_alone, stops]
      · simp [first.truncated inFirst whole]
    · have inSecond : tail <+: tokens' := (List.prefix_append_right_inj tokens).mp ofWhole
      have short : tail ≠ tokens' := fun same => strict (by rw [same])
      simp [first.reads, next.truncated inSecond short]

/-- A last step that reads nothing more leaves the encoding alone. -/
theorem Delimits.bind_nil {second : α → Reader τ β} (first : Delimits r tokens value)
    (next : Delimits (second value) [] value') : Delimits (r >>= second) tokens value' := by
  simpa using first.bind next

/-- Post-processing the value leaves the encoding alone. -/
theorem Delimits.map (f : α → β) (delimits : Delimits r tokens value) :
    Delimits (f <$> r) tokens (f value) where
  reads rest := by simp [delimits.reads]
  truncated ofWhole strict := by simp [delimits.truncated ofWhole strict]

theorem token_delimits (first : τ) : Delimits token [first] first where
  reads _ := rfl
  truncated {part} ofWhole strict := by
    cases part with
    | nil => rfl
    | cons head tail =>
      obtain ⟨rfl, tailNil⟩ := List.cons_prefix_cons.mp ofWhole
      exact absurd (by rw [List.prefix_nil.mp tailNil]) strict

theorem take_delimits (tokens : List τ) : Delimits (take tokens.length) tokens tokens where
  reads rest := by simp [take]
  truncated {part} ofWhole strict := by
    have shorter : ¬ tokens.length ≤ part.length := fun long =>
      strict (ofWhole.eq_of_length_le long)
    simp [take, shorter]

end Reader

end HaviliarIot
