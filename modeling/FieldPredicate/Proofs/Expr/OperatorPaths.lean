import FieldPredicate.Proofs.Expr.Acceptance

/-!
# How many operators stand above each other

The nesting depth that reading counts is not the height of a tree. A left operand nests no deeper
than its operator, on each of the five levels of binary operators, and a group nests a step deeper
without any operator of its own. So the number of operators on a path down the tree is bounded by
depth and level together: five for each step that is left, and one more for an operator before the
innermost operand. Groups that each hold an operation of every level reach this bound.
-/

namespace FieldPredicate.Expr

/-- The paths from the root to the leaves, each with the expressions on it. -/
def paths : Expr → List (List Expr)
  | .unary op operand => operand.paths.map (.unary op operand :: ·)
  | .binary left op right => (left.paths ++ right.paths).map (.binary left op right :: ·)
  | e => [[e]]

def isOperation : Expr → Bool
  | .unary _ _ | .binary _ _ _ => true
  | _ => false

def operationsOn (path : List Expr) : Nat :=
  path.countP isOperation

@[simp] theorem operationsOn_unary (op : UnaryOp) (operand : Expr) (path : List Expr) :
    operationsOn (.unary op operand :: path) = operationsOn path + 1 :=
  List.countP_cons_of_pos rfl

@[simp] theorem operationsOn_binary (left : Expr) (op : BinaryOp) (right : Expr)
    (path : List Expr) :
    operationsOn (.binary left op right :: path) = operationsOn path + 1 :=
  List.countP_cons_of_pos rfl

/-! ## The bound -/

/-- The most operators that can stand above each other in an expression of the level at the
depth. -/
def operationLimit (depth : Nat) (level : Level) : Nat :=
  5 * (maxDepth - depth) + 1 - level.tightness

section Limit

variable {depth : Nat} {level : Level}

theorem operationLimit_tighter (h : level ≠ .unary) :
    operationLimit depth level.tighter ≤ operationLimit depth level := by
  simp only [operationLimit, Level.tightness_tighter h]
  omega

theorem operationLimit_left (h : level ≠ .unary) (hdepth : depth + 1 ≤ maxDepth) :
    operationLimit depth level.tighter + 1 ≤ operationLimit depth level := by
  have htight : level.tightness ≤ 5 := level.tightness_le_unary
  simp only [operationLimit, Level.tightness_tighter h]
  omega

/-- A step deeper there is room for one operator of each of the five levels less. -/
theorem operationLimit_deeper (hdepth : depth + 1 ≤ maxDepth) :
    operationLimit (depth + 1) level + 1 ≤ operationLimit depth level := by
  have htight : level.tightness ≤ 5 := level.tightness_le_unary
  simp only [operationLimit]
  omega

theorem operationLimit_group (hdepth : depth + 1 ≤ maxDepth) :
    operationLimit (depth + 1) .or ≤ operationLimit depth .unary := by
  simp only [operationLimit, Level.tightness]
  omega

theorem operationsOn_le_of_derives {tokens : List Token} {e : Expr}
    (h : Derives depth level tokens e) :
    ∀ path ∈ e.paths, operationsOn path ≤ operationLimit depth level := by
  induction h with
  | tighter hlevel _ ih =>
      intro path hpath
      exact Nat.le_trans (ih path hpath) (operationLimit_tighter hlevel)
  | @binary depth op token left right a b _ _ hright ihl ihr =>
      intro path hpath
      obtain ⟨below, hbelow, rfl⟩ := List.mem_map.mp hpath
      have hdepth : depth + 1 ≤ maxDepth := hright.depth_le
      rw [operationsOn_binary]
      rcases List.mem_append.mp hbelow with hmem | hmem
      · have hle := ihl below hmem
        have hroom := operationLimit_left op.level_ne_unary hdepth
        omega
      · have hle := ihr below hmem
        have hroom : operationLimit (depth + 1) op.level + 1 ≤ operationLimit depth op.level :=
          operationLimit_deeper hdepth
        omega
  | @unary depth op token tokens e _ _ hderives ih =>
      intro path hpath
      obtain ⟨below, hbelow, rfl⟩ := List.mem_map.mp hpath
      have hle := ih below hbelow
      have hroom : operationLimit (depth + 1) .unary + 1 ≤ operationLimit depth .unary :=
        operationLimit_deeper hderives.depth_le
      rw [operationsOn_unary]
      omega
  | group _ hderives ih =>
      intro path hpath
      exact Nat.le_trans (ih path hpath) (operationLimit_group hderives.depth_le)
  | _ =>
      intro path hpath
      rw [List.mem_singleton.mp hpath]
      exact Nat.zero_le _

end Limit

/-! ## Expressions that reach the bound -/

def leaf : Token := ⟨.symbol, "x"⟩

/-- An operation of each level on the operand, the tightest one innermost. -/
def cascade (operand : Expr) : Expr :=
  [.mul, .add, .equal, .and, .or].foldl (fun e op => .binary e op (.symbol "x")) operand

def cascadeTokens (operand : List Token) : List Token :=
  operand ++ [⟨.asterisk, "*"⟩, leaf] ++ [⟨.plus, "+"⟩, leaf] ++ [⟨.equal, "=="⟩, leaf] ++
    [⟨.logicalAnd, "&&"⟩, leaf] ++ [⟨.logicalOr, "||"⟩, leaf]

/-- A cascade on `-x`, in as many cascades on groups. -/
def tower : Nat → Expr
  | 0 => cascade (.unary .negate (.symbol "x"))
  | height + 1 => cascade (tower height)

def towerTokens : Nat → List Token
  | 0 => cascadeTokens [⟨.minus, "-"⟩, leaf]
  | height + 1 =>
      cascadeTokens (⟨.leftParen, "("⟩ :: towerTokens height ++ [⟨.rightParen, ")"⟩])

section Towers

variable {depth : Nat} {operand : List Token} {e : Expr}

theorem derives_leaf (h : depth ≤ maxDepth) (level : Level) :
    Derives depth level [leaf] (.symbol "x") :=
  (Derives.symbol h (by decide) (by decide)).loosen level.tightness_le_unary

theorem Derives.with_leaf (op : BinaryOp) (token : Token) (hop : token.kind.binaryOp? = some op)
    (h : Derives depth op.level.tighter operand e) (hdepth : depth + 1 ≤ maxDepth) :
    Derives depth op.level (operand ++ [token, leaf]) (.binary e op (.symbol "x")) :=
  .binary hop h (derives_leaf hdepth op.level)

theorem Derives.cascade (h : Derives depth .unary operand e) (hdepth : depth + 1 ≤ maxDepth) :
    Derives depth .or (cascadeTokens operand) e.cascade := by
  have hmul := Derives.with_leaf .mul ⟨.asterisk, "*"⟩ rfl h hdepth
  have hadd := Derives.with_leaf .add ⟨.plus, "+"⟩ rfl hmul hdepth
  have hequal := Derives.with_leaf .equal ⟨.equal, "=="⟩ rfl hadd hdepth
  have hand := Derives.with_leaf .and ⟨.logicalAnd, "&&"⟩ rfl hequal hdepth
  exact Derives.with_leaf .or ⟨.logicalOr, "||"⟩ rfl hand hdepth

/-- Each group takes a step, and the operator before the innermost operand the last one. -/
theorem derives_tower {height : Nat} (h : height + depth + 1 = maxDepth) :
    Derives depth .or (towerTokens height) (tower height) := by
  induction height generalizing depth with
  | zero =>
      have hdepth : depth ≤ maxDepth := by omega
      have hnegated : Derives depth .unary [⟨.minus, "-"⟩, leaf] (.unary .negate (.symbol "x")) :=
        .unary hdepth rfl (derives_leaf (by omega) .unary)
      exact hnegated.cascade (by omega)
  | succ height ih =>
      have hgroup : Derives depth .unary
          (⟨.leftParen, "("⟩ :: towerTokens height ++ [⟨.rightParen, ")"⟩]) (tower height) :=
        .group (by omega) (ih (by omega))
      exact hgroup.cascade (by omega)

theorem exists_path_binary {left : Expr} {path : List Expr} (h : path ∈ left.paths)
    (op : BinaryOp) (right : Expr) :
    ∃ longer ∈ (Expr.binary left op right).paths, operationsOn longer = operationsOn path + 1 :=
  ⟨.binary left op right :: path,
    List.mem_map.mpr ⟨path, List.mem_append_left _ h, rfl⟩, operationsOn_binary ..⟩

theorem exists_path_cascade {path : List Expr} (h : path ∈ e.paths) :
    ∃ longer ∈ e.cascade.paths, operationsOn longer = operationsOn path + 5 := by
  obtain ⟨mul, hmul, hmulCount⟩ := exists_path_binary h .mul (.symbol "x")
  obtain ⟨add, hadd, haddCount⟩ := exists_path_binary hmul .add (.symbol "x")
  obtain ⟨equal, hequal, hequalCount⟩ := exists_path_binary hadd .equal (.symbol "x")
  obtain ⟨and, hand, handCount⟩ := exists_path_binary hequal .and (.symbol "x")
  obtain ⟨or, hor, horCount⟩ := exists_path_binary hand .or (.symbol "x")
  exact ⟨or, hor, by omega⟩

theorem exists_path_tower (height : Nat) :
    ∃ path ∈ (tower height).paths, operationsOn path = 5 * height + 6 := by
  induction height with
  | zero =>
      have hleaf : [.unary .negate (.symbol "x"), .symbol "x"] ∈
          (Expr.unary .negate (.symbol "x")).paths := List.mem_singleton_self _
      exact exists_path_cascade hleaf
  | succ height ih =>
      obtain ⟨path, hpath, hcount⟩ := ih
      obtain ⟨longer, hlonger, hmore⟩ := exists_path_cascade hpath
      exact ⟨longer, hlonger, by omega⟩

end Towers

/-- However many tokens there are, at most 641 operators stand above each other in the expression
that they are read as, and some tokens are read as an expression with a path of 641 operators. -/
theorem operationsOn_le_of_read_and_parse :
    (∀ tokens rest e, read tokens = (.ok e, rest) → ∀ path ∈ e.paths, operationsOn path ≤ 641) ∧
    (∀ tokens e, parse tokens = .ok e → ∀ path ∈ e.paths, operationsOn path ≤ 641) ∧
    ∃ tokens e, parse tokens = .ok e ∧ ∃ path ∈ e.paths, operationsOn path = 641 := by
  refine ⟨?_, ?_, ?_⟩
  · intro tokens rest e hread
    obtain ⟨used, -, hderives⟩ := exists_derives_of_read hread
    exact operationsOn_le_of_derives hderives
  · intro tokens e hparse
    obtain ⟨used, -, -, hderives, -⟩ := exists_derives_of_parse hparse
    exact operationsOn_le_of_derives hderives
  · have hderives : Derives 0 .or (towerTokens 127) (tower 127) := derives_tower rfl
    exact ⟨_, _, parse_derives hderives "", exists_path_tower 127⟩

/-- The bound on the two paths of `!(a < -7)`, and on the part of `!a b` that is read before `b`. -/
theorem operationsOn_le_of_negated_comparison :
    parse [⟨.not, "!"⟩, ⟨.leftParen, "("⟩, ⟨.symbol, "a"⟩, ⟨.less, "<"⟩, ⟨.minus, "-"⟩,
        ⟨.integer, "7"⟩, ⟨.rightParen, ")"⟩, .eof] =
      .ok (.unary .not (.binary (.symbol "a") .less (.unary .negate (.integer "7")))) ∧
    (∀ path ∈ [[.unary .not (.binary (.symbol "a") .less (.unary .negate (.integer "7"))),
          .binary (.symbol "a") .less (.unary .negate (.integer "7")), .symbol "a"],
        [.unary .not (.binary (.symbol "a") .less (.unary .negate (.integer "7"))),
          .binary (.symbol "a") .less (.unary .negate (.integer "7")),
          .unary .negate (.integer "7"), .integer "7"]], operationsOn path ≤ 641) ∧
    read [⟨.not, "!"⟩, ⟨.symbol, "a"⟩, ⟨.symbol, "b"⟩, .eof] =
      (.ok (.unary .not (.symbol "a")), [⟨.symbol, "b"⟩, .eof]) ∧
    ∀ path ∈ [[.unary .not (.symbol "a"), .symbol "a"]], operationsOn path ≤ 641 := by
  obtain ⟨hread, hparse, -⟩ := operationsOn_le_of_read_and_parse
  refine ⟨rfl, ?_, rfl, ?_⟩
  · exact hparse [⟨.not, "!"⟩, ⟨.leftParen, "("⟩, ⟨.symbol, "a"⟩, ⟨.less, "<"⟩, ⟨.minus, "-"⟩,
      ⟨.integer, "7"⟩, ⟨.rightParen, ")"⟩, .eof] _ rfl
  · exact hread [⟨.not, "!"⟩, ⟨.symbol, "a"⟩, ⟨.symbol, "b"⟩, .eof] _ _ rfl

end FieldPredicate.Expr
