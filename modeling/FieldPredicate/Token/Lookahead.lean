import FieldPredicate.Token

/-!
# Tokens with one token of lookahead

A stream hands out its tokens one after the other. The next one can be looked at before it is
taken: the stream then holds it, or that there is none, and hands it out when it is taken.
-/

namespace FieldPredicate

structure Lookahead where
  /-- What was looked at and not taken yet. -/
  held : Option (Option Token)
  source : List Token
  ended : held = some none → source = []

namespace Lookahead

def ofTokens (tokens : List Token) : Lookahead where
  held := none
  source := tokens
  ended := nofun

/-- The tokens that the stream will hand out. -/
def remaining (stream : Lookahead) : List Token :=
  match stream.held with
  | some seen => seen.toList ++ stream.source
  | none => stream.source

/-- Takes the next token, if there is one. -/
def next (stream : Lookahead) : Option Token × Lookahead :=
  match stream.held with
  | some seen => (seen, ofTokens stream.source)
  | none => (stream.source.head?, ofTokens stream.source.tail)

/-- Looks at the next token, if there is one, and holds what was seen. -/
def peek (stream : Lookahead) : Option Token × Lookahead :=
  match stream.held with
  | some seen => (seen, stream)
  | none =>
      (stream.source.head?,
        { held := some stream.source.head?
          source := stream.source.tail
          ended := by simp +contextual })

@[simp] theorem remaining_ofTokens (tokens : List Token) : (ofTokens tokens).remaining = tokens :=
  rfl

/-! ## What is handed out -/

section

variable (stream : Lookahead)

theorem next_eq :
    stream.next.1 = stream.remaining.head? ∧ stream.next.2.remaining = stream.remaining.tail := by
  obtain ⟨held, source, ended⟩ := stream
  match held with
  | none => exact ⟨rfl, rfl⟩
  | some (some token) => exact ⟨rfl, rfl⟩
  | some none =>
      have hsource : source = [] := ended rfl
      subst hsource
      exact ⟨rfl, rfl⟩

theorem peek_eq :
    stream.peek.1 = stream.remaining.head? ∧ stream.peek.2.remaining = stream.remaining := by
  obtain ⟨held, source, ended⟩ := stream
  match held with
  | none => exact ⟨rfl, by cases source <;> rfl⟩
  | some (some token) => exact ⟨rfl, rfl⟩
  | some none =>
      have hsource : source = [] := ended rfl
      subst hsource
      exact ⟨rfl, rfl⟩

end

end Lookahead

end FieldPredicate
