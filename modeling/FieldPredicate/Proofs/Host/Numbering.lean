import FieldPredicate.Check
import FieldPredicate.Proofs.Value.Sharing

/-!
# The numbers of fresh payloads

Data of the host has the same value whatever number its payloads are numbered from, but for their
identities: with a greater first number, all fresh identities move by the difference.
-/

namespace FieldPredicate

/-- Moves the identities from a number on. -/
def Identity.shift (first offset : Nat) (id : Identity) : Identity :=
  if id.number < first then id else ⟨id.number + offset⟩

theorem Identity.shift_injective (first offset : Nat) :
    Function.Injective (shift first offset) := by
  intro a b hab
  obtain ⟨a⟩ := a
  obtain ⟨b⟩ := b
  simp only [shift] at hab
  split at hab <;> split at hab <;> simp only [Identity.mk.injEq] at hab ⊢ <;> omega

namespace HostValue

mutual

/-- All identities that the data brings with it are less than a number. -/
def Below (bound : Nat) : HostValue → Prop
  | .sequence items => BelowItems bound items
  | .table entries => BelowEntries bound entries
  | .present content | .boxed content => content.Below bound
  | .record _ fields => BelowFields bound fields
  | .dynamic value => ∀ id ∈ value.identities, id.number < bound
  | _ => True

def BelowItems (bound : Nat) : List HostValue → Prop
  | [] => True
  | item :: rest => item.Below bound ∧ BelowItems bound rest

def BelowEntries (bound : Nat) : List (HostValue × HostValue) → Prop
  | [] => True
  | (key, item) :: rest => key.Below bound ∧ item.Below bound ∧ BelowEntries bound rest

def BelowFields (bound : Nat) : List (String × HostValue) → Prop
  | [] => True
  | (_, item) :: rest => item.Below bound ∧ BelowFields bound rest

end

end HostValue

section Moves

variable {α β γ : Type} {first offset : Nat}

/-- Numbered from a later number on, what is made is moved, and as many numbers are used for it. -/
def Moves (first offset : Nat) (move : α → α) (make : Nat → α × Nat) : Prop :=
  ∀ next, first ≤ next → next ≤ (make next).2 ∧
    make (next + offset) = (move (make next).1, (make next).2 + offset)

namespace Moves

variable {move : α → α} {moveFirst : β → β} {moveSecond : γ → γ}
  {makeFirst : Nat → β × Nat} {makeSecond : Nat → γ × Nat}

theorem keep {x : α} (h : move x = x) : Moves first offset move fun next => (x, next) := by
  intro next _
  exact ⟨Nat.le_refl next, by rw [h]⟩

theorem seq (hfirst : Moves first offset moveFirst makeFirst)
    (hsecond : Moves first offset moveSecond makeSecond) (join : β → γ → α)
    (hjoin : ∀ x y, move (join x y) = join (moveFirst x) (moveSecond y)) :
    Moves first offset move fun next =>
      let (x, after) := makeFirst next
      let (y, after) := makeSecond after
      (join x y, after) := by
  intro next hnext
  obtain ⟨hle, heq⟩ := hfirst next hnext
  obtain ⟨hle', heq'⟩ := hsecond (makeFirst next).2 (Nat.le_trans hnext hle)
  exact ⟨Nat.le_trans hle hle', by simp only [heq, heq', hjoin]⟩

theorem fresh (h : Moves first offset moveFirst makeFirst) (build : Identity → β → α)
    (hbuild : ∀ id x, move (build id x) = build (id.shift first offset) (moveFirst x)) :
    Moves first offset move fun next =>
      let (x, after) := makeFirst (next + 1)
      (build ⟨next⟩ x, after) := by
  intro next hnext
  obtain ⟨hle, heq⟩ := h (next + 1) (Nat.le_succ_of_le hnext)
  have hid : Identity.shift first offset ⟨next⟩ = ⟨next + offset⟩ :=
    if_neg (Nat.not_lt.mpr hnext)
  have hnumber : next + offset + 1 = next + 1 + offset := by omega
  exact ⟨Nat.le_of_succ_le hle, by simp only [hnumber, heq, hbuild, hid]⟩

end Moves

end Moves

/-! ## Data of the host -/

namespace HostValue

variable {first : Nat}

/-- What the data brings with it has been numbered before, so it is kept. -/
theorem rename_shift_of_below {value : Value} (h : ∀ id ∈ value.identities, id.number < first)
    (offset : Nat) : value.rename (Identity.shift first offset) = value := by
  have hids : value.identities = value.identities.map (Identity.shift first offset) := by
    rw [List.map_congr_left (g := id), List.map_id]
    intro id hmem
    exact if_pos (h id hmem)
  exact (Value.eq_rename (s := id) rfl hids).symm

-- By the recursion of the conversion: a constructor takes a number for its payload, and lists are
-- converted from the first element to the last.
mutual

theorem toValue_moves (offset : Nat) : ∀ data : HostValue, data.Below first →
    Moves first offset (Value.rename (Identity.shift first offset)) fun next => data.toValue next
  | .sequence items, h => (toItems_moves offset items h).fresh Value.slice fun _ _ => rfl
  | .table entries, h => (toEntries_moves offset entries h).fresh Value.map fun _ _ => rfl
  | .present content, h | .boxed content, h =>
      (toValue_moves offset content h).fresh Value.pointer fun _ _ => rfl
  | .record name fields, h =>
      (toFields_moves offset fields h).fresh (fun id values => Value.struct id name values)
        fun _ _ => rfl
  | .dynamic _, h => .keep (rename_shift_of_below h offset)
  | .bool _, _ | .int _, _ | .uint _, _ | .float32 _, _ | .float64 _, _ | .string _, _
  | .missing, _ => .keep rfl

theorem toItems_moves (offset : Nat) : ∀ items : List HostValue, BelowItems first items →
    Moves first offset (Value.renameItems (Identity.shift first offset))
      fun next => toItems next items
  | [], _ => .keep rfl
  | item :: rest, h =>
      (toValue_moves offset item h.1).seq (toItems_moves offset rest h.2)
        (fun value values => value :: values) fun _ _ => rfl

theorem toEntries_moves (offset : Nat) : ∀ entries : List (HostValue × HostValue),
    BelowEntries first entries →
    Moves first offset (Value.renameEntries (Identity.shift first offset))
      fun next => toEntries next entries
  | [], _ => .keep rfl
  | (key, item) :: rest, h =>
      have hrest : Moves first offset
          (fun pair : Value × List (Value × Value) =>
            (pair.1.rename (Identity.shift first offset),
              Value.renameEntries (Identity.shift first offset) pair.2)) _ :=
        (toValue_moves offset item h.2.1).seq (toEntries_moves offset rest h.2.2) Prod.mk
          fun _ _ => rfl
      (toValue_moves offset key h.1).seq hrest (fun key pair => (key, pair.1) :: pair.2)
        fun _ _ => rfl

theorem toFields_moves (offset : Nat) : ∀ fields : List (String × HostValue),
    BelowFields first fields →
    Moves first offset (Value.renameFields (Identity.shift first offset))
      fun next => toFields next fields
  | [], _ => .keep rfl
  | (name, item) :: rest, h =>
      (toValue_moves offset item h.1).seq (toFields_moves offset rest h.2)
        (fun value values => (name, value) :: values) fun _ _ => rfl

end

end HostValue

end FieldPredicate
