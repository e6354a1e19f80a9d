import FieldPredicate.Check
import FieldPredicate.Proofs.Check.FailFast
import FieldPredicate.Proofs.Host.Lossless
import FieldPredicate.Proofs.Numeral.DecimalText

/-!
# The text of data tells the data

The text of a number ends where no digit follows, and every other text tells by itself where it
ends. Behind an element stands a comma, a colon or a bracket, none of which continues a number. So
data that is built from booleans and integers has a text that no other data of its type has, and
the text of a value in an error tells which value has failed.
-/

namespace FieldPredicate

/-- The types that are built from booleans and integers alone. -/
inductive HostType.Basic : HostType → Prop
  | bool : Basic .bool
  | int (width : IntWidth) : Basic (.int width)
  | uint (width : IntWidth) : Basic (.uint width)
  | sequence {item : HostType} : Basic item → Basic (.sequence item)
  | table {key item : HostType} : Basic key → Basic item → Basic (.table key item)
  | optional {content : HostType} : Basic content → Basic (.optional content)
  | boxed {content : HostType} : Basic content → Basic (.boxed content)

/-! ## The text of data -/

namespace HostValue

open Value (commaSeparated renderItems renderEntries renderFields)

/-- The text of the value that the data becomes. -/
def text (x : HostValue) : String :=
  (x.toValue 0).1.render

-- By the recursion of the conversion, which numbers the parts of the data differently, depending on
-- the number for the whole.
mutual

@[simp] theorem render_toValue : ∀ (x : HostValue) (next : Nat), (x.toValue next).1.render = x.text
  | .sequence items, next => by
      rw [text, toValue, toValue, Value.render, Value.render, renderItems_toItems items,
        renderItems_toItems items]
  | .table entries, next => by
      rw [text, toValue, toValue, Value.render, Value.render, renderEntries_toEntries entries,
        renderEntries_toEntries entries]
  | .present content, next | .boxed content, next => by
      rw [text, toValue, toValue, Value.render, Value.render, render_toValue content,
        render_toValue content]
  | .record _ fields, next => by
      rw [text, toValue, toValue, Value.render, Value.render, renderFields_toFields fields,
        renderFields_toFields fields]
  | .bool _, _ | .int _, _ | .uint _, _ | .float32 _, _ | .float64 _, _ | .string _, _
  | .missing, _ | .dynamic _, _ => by rw [text, toValue, toValue]

@[simp] theorem renderItems_toItems : ∀ (items : List HostValue) (next : Nat),
    renderItems (toItems next items).1 = items.map text
  | [], _ => rfl
  | item :: rest, next => by
      simp [toItems, renderItems, render_toValue item, renderItems_toItems rest]

@[simp] theorem renderEntries_toEntries : ∀ (entries : List (HostValue × HostValue)) (next : Nat),
    renderEntries (toEntries next entries).1 =
      entries.map fun entry => entry.1.text ++ ": " ++ entry.2.text
  | [], _ => rfl
  | (key, item) :: rest, next => by
      simp [toEntries, renderEntries, render_toValue key, render_toValue item,
        renderEntries_toEntries rest]

@[simp] theorem renderFields_toFields : ∀ (fields : List (String × HostValue)) (next : Nat),
    renderFields (toFields next fields).1 =
      fields.map fun field => field.1 ++ ": " ++ field.2.text
  | [], _ => rfl
  | (name, item) :: rest, next => by
      simp [toFields, renderFields, render_toValue item, renderFields_toFields rest]

end

@[simp] theorem text_sequence (items : List HostValue) :
    (sequence items).text = "[" ++ commaSeparated (items.map text) ++ "]" := by
  rw [text, toValue, Value.render, renderItems_toItems]

@[simp] theorem text_table (entries : List (HostValue × HostValue)) :
    (table entries).text =
      "map[" ++ commaSeparated (entries.map fun entry => entry.1.text ++ ": " ++ entry.2.text) ++
        "]" := by
  rw [text, toValue, Value.render, renderEntries_toEntries]

@[simp] theorem text_missing : missing.text = "nil" := by
  rw [text, toValue, Value.render]

@[simp] theorem text_present (x : HostValue) : (present x).text = "&" ++ x.text := by
  rw [text, toValue, Value.render, render_toValue]

@[simp] theorem text_boxed (x : HostValue) : (boxed x).text = "&" ++ x.text := by
  rw [text, toValue, Value.render, render_toValue]

end HostValue

/-! ## Texts that tell where they end -/

/-- The text is empty or starts with a comma, a colon or a closing bracket. -/
def Delimited (rest : List Char) : Prop :=
  ∀ c, rest.head? = some c → c = ',' ∨ c = ':' ∨ c = ']'

@[simp] theorem delimited_nil : Delimited [] := by
  intro c hhead
  cases hhead

theorem delimited_cons {c : Char} (h : c = ',' ∨ c = ':' ∨ c = ']') (rest : List Char) :
    Delimited (c :: rest) := by
  intro d hhead
  cases hhead
  exact h

/-- What is in the domain is told by the beginning of a longer text, if nothing that could continue
a number stands behind its own text. A closing bracket in its place tells that there is nothing. -/
structure UniquelyRead {α : Type} (domain : α → Prop) (text : α → String) : Prop where
  opens : ∀ {x}, domain x → ∃ c, (text x).toList.head? = some c ∧ c ≠ ']'
  unique : ∀ {x y}, domain x → domain y → ∀ {rest rest'}, Delimited rest → Delimited rest' →
    (text x).toList ++ rest = (text y).toList ++ rest' → x = y ∧ rest = rest'

/-! ## Numbers -/

/-- The characters of numbers. -/
def isNumeric (c : Char) : Bool :=
  c.isDigit || c = '-'

theorem takeWhile_isNumeric {cs rest : List Char} (hcs : ∀ c ∈ cs, isNumeric c = true)
    (hrest : Delimited rest) : (cs ++ rest).takeWhile isNumeric = cs := by
  have hnone : rest.takeWhile isNumeric = [] := by
    cases rest with
    | nil => rfl
    | cons c rest =>
        have hc : isNumeric c = false := by
          rcases hrest c rfl with rfl | rfl | rfl <;> decide
        exact List.takeWhile_cons_of_neg (by simp [hc])
  rw [List.takeWhile_append_of_pos hcs, hnone, List.append_nil]

/-- The text has characters, and all of them are those of numbers. -/
def Numeric (text : String) : Prop :=
  text.toList ≠ [] ∧ ∀ c ∈ text.toList, isNumeric c = true

theorem numeric_repr (n : Nat) : Numeric (Nat.repr n) := by
  refine ⟨?_, ?_⟩
  · rw [Nat.toList_repr]
    exact Nat.toDigits_ne_nil
  · intro c hmem
    rw [Nat.toList_repr] at hmem
    have hdigit : c.isDigit = true := Nat.isDigit_of_mem_toDigits (by decide) (by decide) hmem
    rw [isNumeric, hdigit, Bool.true_or]

theorem numeric_intRepr (n : Int) : Numeric (Int.repr n) := by
  rw [Int.repr_eq_if]
  split
  · exact numeric_repr n.toNat
  · obtain ⟨-, hdigits⟩ := numeric_repr (-n).toNat
    rw [Numeric, String.toList_append]
    refine ⟨by simp, ?_⟩
    exact List.forall_mem_cons.mpr ⟨by decide, hdigits⟩

namespace UniquelyRead

variable {α β : Type} {domain : α → Prop} {text : α → String}

theorem of_numeric (hnumeric : ∀ x, domain x → Numeric (text x))
    (hinj : ∀ x y, domain x → domain y → text x = text y → x = y) :
    UniquelyRead domain text where
  opens {x} hx := by
    obtain ⟨hne, hchars⟩ := hnumeric x hx
    obtain ⟨c, rest, hcons⟩ := List.exists_cons_of_ne_nil hne
    have hc : isNumeric c = true := hchars c (hcons ▸ List.mem_cons_self)
    refine ⟨c, by rw [hcons, List.head?_cons], ?_⟩
    rintro rfl
    exact absurd hc (by decide)
  unique {x y} hx hy {rest rest'} hrest hrest' heq := by
    have htext : (text x).toList = (text y).toList := by
      rw [← takeWhile_isNumeric (hnumeric x hx).2 hrest, heq,
        takeWhile_isNumeric (hnumeric y hy).2 hrest']
    rw [htext] at heq
    exact ⟨hinj x y hx hy (String.toList_inj.mp htext), List.append_cancel_left heq⟩

/-! ## Lists -/

section Lists

open Value (commaSeparated)

theorem text_append_ne_bracket (h : UniquelyRead domain text) {x : α} (hx : domain x)
    {rest rest' : List Char} : (text x).toList ++ rest ≠ ']' :: rest' := by
  intro heq
  obtain ⟨c, hhead, hc⟩ := h.opens hx
  obtain ⟨tail, hcons⟩ := List.head?_eq_some_iff.mp hhead
  rw [hcons, List.cons_append] at heq
  exact hc (List.cons.inj heq).1

theorem toList_commaSeparated_cons (first : String) (texts : List String) :
    (commaSeparated (first :: texts)).toList =
      first.toList ++ texts.flatMap fun text => ',' :: ' ' :: text.toList := by
  induction texts generalizing first with
  | nil => simp [commaSeparated]
  | cons second texts ih =>
      have hsecond := ih second
      rw [commaSeparated] at hsecond
      simp [commaSeparated, String.intercalate_cons_cons, hsecond]

/-- What stands behind an element, with the bracket behind the last one. -/
def behind (text : α → String) (xs : List α) (rest : List Char) : List Char :=
  (xs.flatMap fun x => ',' :: ' ' :: (text x).toList) ++ ']' :: rest

@[simp] theorem behind_nil (rest : List Char) : behind text [] rest = ']' :: rest :=
  rfl

@[simp] theorem behind_cons (x : α) (xs : List α) (rest : List Char) :
    behind text (x :: xs) rest = ',' :: ' ' :: ((text x).toList ++ behind text xs rest) := by
  simp [behind]

theorem delimited_behind (xs : List α) (rest : List Char) : Delimited (behind text xs rest) := by
  cases xs with
  | nil => exact delimited_cons (by decide) _
  | cons x xs =>
      rw [behind_cons]
      exact delimited_cons (by decide) _

theorem behind_unique (h : UniquelyRead domain text) {xs ys : List α} {rest rest' : List Char}
    (hxs : ∀ x ∈ xs, domain x) (hys : ∀ y ∈ ys, domain y)
    (heq : behind text xs rest = behind text ys rest') : xs = ys ∧ rest = rest' := by
  -- Where one list ends before the other, a bracket stands in the place of a comma.
  induction xs generalizing ys with
  | nil =>
      cases ys with
      | nil => exact ⟨rfl, (List.cons.inj heq).2⟩
      | cons y ys =>
          rw [behind_nil, behind_cons] at heq
          simp at heq
  | cons x xs ih =>
      cases ys with
      | nil =>
          rw [behind_nil, behind_cons] at heq
          simp at heq
      | cons y ys =>
          obtain ⟨hx, htail⟩ := List.forall_mem_cons.mp hxs
          obtain ⟨hy, htail'⟩ := List.forall_mem_cons.mp hys
          simp only [behind_cons, List.cons.injEq, true_and] at heq
          obtain ⟨hhead, hbehind⟩ :=
            h.unique hx hy (delimited_behind xs rest) (delimited_behind ys rest') heq
          obtain ⟨htails, hrest⟩ := ih htail htail' hbehind
          exact ⟨congrArg₂ List.cons hhead htails, hrest⟩

theorem commaSeparated_cons_append (x : α) (xs : List α) (rest : List Char) :
    (commaSeparated ((x :: xs).map text)).toList ++ ']' :: rest =
      (text x).toList ++ behind text xs rest := by
  rw [List.map_cons, toList_commaSeparated_cons, List.flatMap_map, List.append_assoc, behind]

/-- The text of a list ends with the bracket behind it. A bracket in place of a first element tells
that there is none. -/
theorem commaSeparated_unique (h : UniquelyRead domain text) {xs ys : List α}
    {rest rest' : List Char} (hxs : ∀ x ∈ xs, domain x) (hys : ∀ y ∈ ys, domain y)
    (heq : (commaSeparated (xs.map text)).toList ++ ']' :: rest =
      (commaSeparated (ys.map text)).toList ++ ']' :: rest') : xs = ys ∧ rest = rest' := by
  cases xs with
  | nil =>
      cases ys with
      | nil => exact ⟨rfl, (List.cons.inj heq).2⟩
      | cons y ys =>
          rw [commaSeparated_cons_append] at heq
          exact absurd heq.symm (h.text_append_ne_bracket (hys y List.mem_cons_self))
  | cons x xs =>
      cases ys with
      | nil =>
          rw [commaSeparated_cons_append] at heq
          exact absurd heq (h.text_append_ne_bracket (hxs x List.mem_cons_self))
      | cons y ys =>
          obtain ⟨hx, htail⟩ := List.forall_mem_cons.mp hxs
          obtain ⟨hy, htail'⟩ := List.forall_mem_cons.mp hys
          rw [commaSeparated_cons_append, commaSeparated_cons_append] at heq
          obtain ⟨hhead, hbehind⟩ :=
            h.unique hx hy (delimited_behind xs rest) (delimited_behind ys rest') heq
          obtain ⟨htails, hrest⟩ := h.behind_unique htail htail' hbehind
          exact ⟨congrArg₂ List.cons hhead htails, hrest⟩

end Lists

/-- Entries of a table, whose keys end before the colon. -/
theorem entry {domainItem : β → Prop} {textItem : β → String} (hkey : UniquelyRead domain text)
    (hitem : UniquelyRead domainItem textItem) :
    UniquelyRead (fun entry : α × β => domain entry.1 ∧ domainItem entry.2)
      fun entry => text entry.1 ++ ": " ++ textItem entry.2 where
  opens {x} hx := by
    obtain ⟨c, hhead, hc⟩ := hkey.opens hx.1
    exact ⟨c, by simp [List.head?_append, hhead], hc⟩
  unique {x y} hx hy {rest rest'} hrest hrest' heq := by
    have hcolon : (text x.1).toList ++ ':' :: ' ' :: ((textItem x.2).toList ++ rest) =
        (text y.1).toList ++ ':' :: ' ' :: ((textItem y.2).toList ++ rest') := by
      simpa using heq
    obtain ⟨hfirst, hbehind⟩ := hkey.unique hx.1 hy.1 (delimited_cons (by decide) _)
      (delimited_cons (by decide) _) hcolon
    simp only [List.cons.injEq, true_and] at hbehind
    obtain ⟨hsecond, hrests⟩ := hitem.unique hx.2 hy.2 hrest hrest' hbehind
    exact ⟨Prod.ext hfirst hsecond, hrests⟩

end UniquelyRead

/-! ## Data of basic types -/

namespace HostType

open HostValue

theorem uniquelyRead_bool : UniquelyRead (fun x => bool.admits x = true) HostValue.text where
  opens {x} hx := by
    cases form_of_admits hx with
    | bool b => cases b <;> exact ⟨_, rfl, by decide⟩
  unique {x y} hx hy {rest rest'} _ _ heq := by
    cases form_of_admits hx with
    | bool a =>
        cases form_of_admits hy with
        | bool b =>
            cases a <;> cases b
            · exact ⟨rfl, List.append_cancel_left heq⟩
            · simp [HostValue.text, toValue, Value.render] at heq
            · simp [HostValue.text, toValue, Value.render] at heq
            · exact ⟨rfl, List.append_cancel_left heq⟩

theorem uniquelyRead_int (width : IntWidth) :
    UniquelyRead (fun x => (int width).admits x = true) HostValue.text := by
  have htext : ∀ {n : Int}, (int width).admits (.int n) = true →
      (HostValue.int n).text = Int.repr n := by
    intro n hn
    rw [HostValue.text, toValue, Value.render, toInt_signedWord hn]
  refine .of_numeric ?_ ?_
  · intro x hx
    cases form_of_admits hx with
    | int =>
        rw [htext hx]
        exact numeric_intRepr _
  · intro x y hx hy heq
    cases form_of_admits hx with
    | int =>
        cases form_of_admits hy with
        | int =>
            rw [htext hx, htext hy] at heq
            rw [Literal.eq_of_intRepr_eq heq]

theorem uniquelyRead_uint (width : IntWidth) :
    UniquelyRead (fun x => (uint width).admits x = true) HostValue.text := by
  have htext : ∀ {n : Nat}, (uint width).admits (.uint n) = true →
      (HostValue.uint n).text = Nat.repr n := by
    intro n hn
    rw [HostValue.text, toValue, Value.render, toNat_unsignedWord hn]
  refine .of_numeric ?_ ?_
  · intro x hx
    cases form_of_admits hx with
    | uint =>
        rw [htext hx]
        exact numeric_repr _
  · intro x y hx hy heq
    cases form_of_admits hx with
    | uint =>
        cases form_of_admits hy with
        | uint =>
            rw [htext hx, htext hy] at heq
            rw [Literal.eq_of_repr_eq heq]

theorem uniquelyRead_sequence {item : HostType}
    (h : UniquelyRead (fun x => item.admits x = true) HostValue.text) :
    UniquelyRead (fun x => (sequence item).admits x = true) HostValue.text where
  opens {x} hx := by
    cases form_of_admits hx with
    | sequence =>
        rw [text_sequence]
        exact ⟨'[', by simp, by decide⟩
  unique {x y} hx hy {rest rest'} _ _ heq := by
    cases form_of_admits hx with
    | sequence hitems =>
        cases form_of_admits hy with
        | sequence hitems' =>
            rw [text_sequence, text_sequence] at heq
            have hlists := h.commaSeparated_unique hitems hitems' (by simpa using heq)
            exact ⟨congrArg HostValue.sequence hlists.1, hlists.2⟩

theorem uniquelyRead_table {key item : HostType}
    (hkey : UniquelyRead (fun x => key.admits x = true) HostValue.text)
    (hitem : UniquelyRead (fun x => item.admits x = true) HostValue.text) :
    UniquelyRead (fun x => (table key item).admits x = true) HostValue.text where
  opens {x} hx := by
    cases form_of_admits hx with
    | table =>
        rw [text_table]
        exact ⟨'m', by simp, by decide⟩
  unique {x y} hx hy {rest rest'} _ _ heq := by
    cases form_of_admits hx with
    | table hentries =>
        cases form_of_admits hy with
        | table hentries' =>
            rw [text_table, text_table] at heq
            have hlists := (hkey.entry hitem).commaSeparated_unique hentries hentries'
              (by simpa using heq)
            exact ⟨congrArg HostValue.table hlists.1, hlists.2⟩

/-- Missing data is told from present data by the first character. -/
theorem uniquelyRead_optional {content : HostType}
    (h : UniquelyRead (fun x => content.admits x = true) HostValue.text) :
    UniquelyRead (fun x => (optional content).admits x = true) HostValue.text where
  opens {x} hx := by
    cases form_of_admits hx with
    | missing =>
        rw [text_missing]
        exact ⟨'n', by simp, by decide⟩
    | present =>
        rw [text_present]
        exact ⟨'&', by simp, by decide⟩
  unique {x y} hx hy {rest rest'} hrest hrest' heq := by
    cases form_of_admits hx with
    | missing =>
        cases form_of_admits hy with
        | missing => exact ⟨rfl, List.append_cancel_left heq⟩
        | present => simp at heq
    | present hx =>
        cases form_of_admits hy with
        | missing => simp at heq
        | present hy =>
            rw [text_present, text_present] at heq
            obtain ⟨hcontents, hrests⟩ := h.unique hx hy hrest hrest' (by simpa using heq)
            exact ⟨congrArg HostValue.present hcontents, hrests⟩

theorem uniquelyRead_boxed {content : HostType}
    (h : UniquelyRead (fun x => content.admits x = true) HostValue.text) :
    UniquelyRead (fun x => (boxed content).admits x = true) HostValue.text where
  opens {x} hx := by
    cases form_of_admits hx with
    | boxed =>
        rw [text_boxed]
        exact ⟨'&', by simp, by decide⟩
  unique {x y} hx hy {rest rest'} hrest hrest' heq := by
    cases form_of_admits hx with
    | boxed hx =>
        cases form_of_admits hy with
        | boxed hy =>
            rw [text_boxed, text_boxed] at heq
            obtain ⟨hcontents, hrests⟩ := h.unique hx hy hrest hrest' (by simpa using heq)
            exact ⟨congrArg HostValue.boxed hcontents, hrests⟩

theorem Basic.uniquelyRead {type : HostType} (h : type.Basic) :
    UniquelyRead (fun x => type.admits x = true) HostValue.text := by
  induction h with
  | bool => exact uniquelyRead_bool
  | int width => exact uniquelyRead_int width
  | uint width => exact uniquelyRead_uint width
  | sequence _ ih => exact uniquelyRead_sequence ih
  | table _ _ ihkey ihitem => exact uniquelyRead_table ihkey ihitem
  | optional _ ih => exact uniquelyRead_optional ih
  | boxed _ ih => exact uniquelyRead_boxed ih

theorem Basic.text_eq_iff {type : HostType} (h : type.Basic) {x y : HostValue}
    (hx : type.admits x = true) (hy : type.admits y = true) : x.text = y.text ↔ x = y := by
  constructor
  · intro htext
    have heq : x.text.toList ++ [] = y.text.toList ++ [] := by rw [htext]
    exact (h.uniquelyRead.unique hx hy delimited_nil delimited_nil heq).1
  · intro heq
    rw [heq]

end HostType

/-! ## Errors of checks -/

section Errors

variable {typeName : String} {error : CheckError}

theorem value_of_checkField_error {name predicate : String} {value : Value} {table : SymbolTable}
    (h : checkField typeName name value predicate table = .error error) :
    error.value = value.render := by
  rw [checkField] at h
  split at h
  · cases h
  · cases h
    rfl

theorem HostField.exists_of_mem_toFields {fields : List HostField} {next : Nat} {field : Field}
    (h : field ∈ toFields next fields) :
    ∃ source ∈ fields, source.name = field.name ∧ source.predicate = field.predicate ∧
      source.data.text = field.value.render := by
  induction fields generalizing next with
  | nil => simp [toFields] at h
  | cons source rest ih =>
      rw [toFields] at h
      rcases List.mem_cons.mp h with rfl | hrest
      · exact ⟨source, List.mem_cons_self, rfl, rfl, (source.data.render_toValue next).symm⟩
      · obtain ⟨other, hmem, hother⟩ := ih hrest
        exact ⟨other, List.mem_cons_of_mem source hmem, hother⟩

theorem HostField.exists_of_check_error {fields : List HostField} {next : Nat}
    (h : (Record.ofHost next typeName fields).check = .error error) :
    ∃ field ∈ fields, field.name = error.field ∧ field.predicate = some error.predicate ∧
      FailsWith error.field error.predicate (Record.ofHost next typeName fields).table
        error.cause ∧ field.data.text = error.value := by
  obtain ⟨front, field, rest, hfields, -, hreports⟩ := Record.checkFields_eq_error_iff.mp h
  obtain ⟨predicate, cause, hpredicate, hfails, rfl⟩ := hreports
  have hmem : field ∈ toFields next fields := by
    have hsplit : toFields next fields = front ++ field :: rest := hfields
    simp [hsplit]
  obtain ⟨source, hsource, hname, hsame, htext⟩ := exists_of_mem_toFields hmem
  exact ⟨source, hsource, hname, hsame.trans hpredicate, hfails, htext⟩

end Errors

namespace HostType

/-- Data of a basic type has a text that no other data of the type has, however its payloads are
numbered. So the text in an error of a check tells which value of its type has failed. In a check
of a structure, this is the value of the field whose predicate the error names. -/
theorem text_identifies_data {type : HostType} (hbasic : type.Basic) :
    (∀ x y m n, type.admits x = true → type.admits y = true →
      ((x.toValue m).1.render = (y.toValue n).1.render ↔ x = y)) ∧
    (∀ typeName x next predicate error, type.admits x = true →
      checkValue typeName (x.toValue next).1 predicate = .error error →
        ∀ y n, type.admits y = true → (error.value = (y.toValue n).1.render ↔ x = y)) ∧
    ∀ typeName fields next error, (Record.ofHost next typeName fields).check = .error error →
      ∃ field ∈ fields, field.name = error.field ∧ field.predicate = some error.predicate ∧
        FailsWith error.field error.predicate (Record.ofHost next typeName fields).table
          error.cause ∧
        (type.admits field.data = true → ∀ y n, type.admits y = true →
          (error.value = (y.toValue n).1.render ↔ field.data = y)) := by
  refine ⟨?_, ?_, ?_⟩
  · intro x y m n hx hy
    rw [x.render_toValue, y.render_toValue]
    exact hbasic.text_eq_iff hx hy
  · intro typeName x next predicate error hx hcheck y n hy
    rw [value_of_checkField_error hcheck, x.render_toValue, y.render_toValue]
    exact hbasic.text_eq_iff hx hy
  · intro typeName fields next error hcheck
    obtain ⟨field, hmem, hname, hpredicate, hfails, htext⟩ :=
      HostField.exists_of_check_error hcheck
    refine ⟨field, hmem, hname, hpredicate, hfails, fun hx y n hy => ?_⟩
    rw [← htext, y.render_toValue]
    exact hbasic.text_eq_iff hx hy

/-- A sequence of a missing and a present number, which is not `nil` itself. -/
theorem text_identifies_data_of_optional_numbers :
    (sequence (optional (int .w8))).Basic ∧
    (sequence (optional (int .w8))).admits (.sequence [.missing, .present (.int (-5))]) = true ∧
    checkValue "Vec" (.slice ⟨0⟩ [.absent .pointer, .pointer ⟨1⟩ (.int (-5))]) "? == nil" =
      .error ⟨"Vec", "?", "[nil, &-5]", "? == nil", .unsatisfied⟩ ∧
    ∀ y n, (sequence (optional (int .w8))).admits y = true →
      ("[nil, &-5]" = (y.toValue n).1.render ↔ .sequence [.missing, .present (.int (-5))] = y) := by
  have hbasic : (sequence (optional (int .w8))).Basic := .sequence (.optional (.int .w8))
  have hadmits : (sequence (optional (int .w8))).admits
      (.sequence [.missing, .present (.int (-5))]) = true := by
    simp [admits, IntWidth.bits]
  have hcause := failureCause?_isNil hadmits rfl 0
  have hcheck : checkValue "Vec" (HostValue.toValue 0
      (.sequence [.missing, .present (.int (-5))])).1 "? == nil" =
      .error ⟨"Vec", "?", "[nil, &-5]", "? == nil", .unsatisfied⟩ := by
    rw [checkValue, checkField, hcause]
    rfl
  obtain ⟨-, htext, -⟩ := text_identifies_data hbasic
  exact ⟨hbasic, hadmits, hcheck, htext "Vec" _ 0 "? == nil" _ hadmits hcheck⟩

end HostType

end FieldPredicate
