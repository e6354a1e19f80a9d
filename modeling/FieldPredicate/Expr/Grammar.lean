import FieldPredicate.Expr.Read

/-!
# The grammar of expressions

The grammar says which tokens form which expression at a level and a nesting depth, without saying
how they are read. Each level but the tightest one holds the expressions of the next tighter level
and their operations with a right operand of its own, one step deeper. Operands exist down to
`maxDepth`. The tables of operators and the text of strings are those that the readers use, and are
listed below.
-/

namespace FieldPredicate

def Level.tighter : Level → Level
  | .or => .and
  | .and => .comparison
  | .comparison => .additive
  | .additive => .multiplicative
  | .multiplicative | .unary => .unary

namespace Expr

/-- The tokens form the expression at a depth and a level. -/
inductive Derives : Nat → Level → List Token → Expr → Prop
  | tighter {depth : Nat} {level : Level} {tokens : List Token} {e : Expr} :
      level ≠ .unary → Derives depth level.tighter tokens e → Derives depth level tokens e
  | binary {depth : Nat} {op : BinaryOp} {token : Token} {left right : List Token} {a b : Expr} :
      token.kind.binaryOp? = some op → Derives depth op.level.tighter left a →
      Derives (depth + 1) op.level right b →
      Derives depth op.level (left ++ token :: right) (.binary a op b)
  | unary {depth : Nat} {op : UnaryOp} {token : Token} {tokens : List Token} {e : Expr} :
      depth ≤ maxDepth → token.kind.unaryOp? = some op → Derives (depth + 1) .unary tokens e →
      Derives depth .unary (token :: tokens) (.unary op e)
  | group {depth : Nat} {opening closing : String} {tokens : List Token} {e : Expr} :
      depth ≤ maxDepth → Derives (depth + 1) .or tokens e →
      Derives depth .unary (⟨.leftParen, opening⟩ :: tokens ++ [⟨.rightParen, closing⟩]) e
  | integer {depth : Nat} {text : String} :
      depth ≤ maxDepth → Derives depth .unary [⟨.integer, text⟩] (.integer text)
  | string {depth : Nat} {text : String} :
      depth ≤ maxDepth → Derives depth .unary [⟨.string, text⟩] (.string (unquoted text))
  | true {depth : Nat} :
      depth ≤ maxDepth → Derives depth .unary [⟨.symbol, "true"⟩] (.bool true)
  | false {depth : Nat} :
      depth ≤ maxDepth → Derives depth .unary [⟨.symbol, "false"⟩] (.bool false)
  | symbol {depth : Nat} {name : String} :
      depth ≤ maxDepth → name ≠ "true" → name ≠ "false" →
      Derives depth .unary [⟨.symbol, name⟩] (.symbol name)
  | selector {depth : Nat} {object period member : String} :
      depth ≤ maxDepth → object ≠ "true" → object ≠ "false" →
      Derives depth .unary [⟨.symbol, object⟩, ⟨.period, period⟩, ⟨.symbol, member⟩]
        (.selector object member)

theorem Derives.depth_le {depth : Nat} {level : Level} {tokens : List Token} {e : Expr}
    (h : Derives depth level tokens e) : depth ≤ maxDepth := by
  induction h with
  | tighter _ _ ih => exact ih
  | binary _ _ _ ih _ => exact ih
  | unary h => exact h
  | group h => exact h
  | integer h => exact h
  | string h => exact h
  | true h => exact h
  | false h => exact h
  | symbol h => exact h
  | selector h => exact h

end Expr

/-! ## The tables of the grammar -/

/-- The tokens of the operators of a level, with the operators that they stand for. -/
def Level.operators : Level → List (TokenKind × BinaryOp)
  | .or => [(.logicalOr, .or)]
  | .and => [(.logicalAnd, .and)]
  | .comparison =>
      [(.equal, .equal), (.notEqual, .notEqual), (.less, .less), (.lessEqual, .lessEqual),
       (.greater, .greater), (.greaterEqual, .greaterEqual)]
  | .additive => [(.plus, .add), (.minus, .sub), (.bitOr, .bitOr)]
  | .multiplicative =>
      [(.asterisk, .mul), (.slash, .div), (.bitAnd, .bitAnd), (.shiftLeft, .shiftLeft),
       (.shiftRight, .shiftRight)]
  | .unary => []

/-- The tokens of the operators before an operand. -/
def UnaryOp.operators : List (TokenKind × UnaryOp) :=
  [(.minus, .negate), (.plus, .identity), (.not, .not), (.asterisk, .deref)]

/-- A token stands between operands of a level if it is in the table of the level. -/
theorem Level.mem_operators_iff {level : Level} {kind : TokenKind} {op : BinaryOp} :
    (kind, op) ∈ level.operators ↔ kind.binaryOp? = some op ∧ op.level = level := by
  constructor
  · intro hmem
    have hall : ∀ entry ∈ level.operators,
        entry.1.binaryOp? = some entry.2 ∧ entry.2.level = level := by
      cases level <;> decide
    exact hall _ hmem
  · rintro ⟨hop, rfl⟩
    cases kind <;> cases hop <;> decide

theorem UnaryOp.mem_operators_iff {kind : TokenKind} {op : UnaryOp} :
    (kind, op) ∈ UnaryOp.operators ↔ kind.unaryOp? = some op := by
  constructor
  · intro hmem
    have hall : ∀ entry ∈ UnaryOp.operators, entry.1.unaryOp? = some entry.2 := by decide
    exact hall _ hmem
  · intro hop
    cases kind <;> cases hop <;> decide

namespace Expr

@[simp] theorem unquoted_quoted (value : String) : unquoted ("`" ++ value ++ "`") = value := by
  simp [unquoted]

/-- Text without its pair of backticks stays as it is. -/
theorem unquoted_of_not_quoted {text : String} (h : ∀ value, text ≠ "`" ++ value ++ "`") :
    unquoted text = text := by
  unfold unquoted
  split
  · rename_i inner htext
    split
    · rename_i hlast
      obtain ⟨front, hfront⟩ := List.getLast?_eq_some_iff.mp hlast
      refine absurd ?_ (h (String.ofList front))
      rw [← String.toList_inj, htext, hfront]
      simp
    · rfl
  · rfl

end Expr

end FieldPredicate
