import FieldPredicate.CommandLine.Grammar
import Mathlib.Data.List.TakeWhile

/-!
# What one argument does

Before the two dashes one argument does one of five things. It ends the options, gives the option
before it a value, is the predicate, opens an option, or is an option with its value. All but the
first two first store what is pending. The main statement says so both ways, so the reading of
arguments is not opened any more behind it.
-/

namespace FieldPredicate.CommandLine

section Except

variable {ε δ α β : Type} {x : Except ε α} {a : α} {b : β}

@[simp] theorem map_eq_ok_iff {f : α → β} : x.map f = .ok b ↔ ∃ a, x = .ok a ∧ f a = b := by
  cases x with
  | error e => simp [Except.map]
  | ok a => simp [Except.map]

@[simp] theorem mapError_eq_ok_iff {f : ε → δ} : x.mapError f = .ok a ↔ x = .ok a := by
  cases x with
  | error e => simp [Except.mapError]
  | ok a => simp [Except.mapError]

end Except

/-! ## The first `=` of a text -/

section Equals

variable {front back text : List Char}

theorem takeWhile_of_not_mem (h : '=' ∉ text) : text.takeWhile (· ≠ '=') = text :=
  List.takeWhile_eq_self_iff.mpr fun c hc => by
    simpa using ne_of_mem_of_not_mem hc h

theorem dropWhile_of_not_mem (h : '=' ∉ text) : text.dropWhile (· ≠ '=') = [] :=
  List.dropWhile_eq_nil_iff.mpr fun c hc => by
    simpa using ne_of_mem_of_not_mem hc h

theorem takeWhile_of_first (h : '=' ∉ front) :
    (front ++ '=' :: back).takeWhile (· ≠ '=') = front := by
  rw [List.takeWhile_append, takeWhile_of_not_mem h]
  simp

theorem dropWhile_of_first (h : '=' ∉ front) :
    (front ++ '=' :: back).dropWhile (· ≠ '=') = '=' :: back := by
  rw [List.dropWhile_append, dropWhile_of_not_mem h]
  simp

end Equals

/-! ## Arguments by their form -/

theorem argument_cases (argument : String) :
    argument = "--" ∨ (∃ text, text ≠ [] ∧ argument.toList = '-' :: '-' :: text) ∨
      (∃ c rest, c ≠ '-' ∧ argument.toList = '-' :: c :: rest) ∨ IsPlain argument := by
  by_cases hplain : IsPlain argument
  · exact .inr (.inr (.inr hplain))
  · obtain ⟨c, rest, heq⟩ : ∃ c rest, argument.toList = '-' :: c :: rest := by
      simpa [IsPlain] using hplain
    by_cases hc : c = '-'
    · subst hc
      cases rest with
      | nil => exact .inl (String.toList_inj.mp heq)
      | cons d rest => exact .inr (.inl ⟨d :: rest, by simp, heq⟩)
    · exact .inr (.inr (.inl ⟨c, rest, hc, heq⟩))

namespace Flag

variable {flag : Flag} {name : String} {c : Char}

theorem not_mem_of_ofLong? (h : ofLong? name = some flag) : '=' ∉ name.toList := by
  unfold ofLong? at h
  split at h
  · decide
  · decide
  · decide
  · decide
  · decide
  · decide
  · cases h

theorem ne_nil_of_ofLong? (h : ofLong? name = some flag) : name.toList ≠ [] := by
  intro hnil
  have hname : name = "" := String.toList_eq_nil_iff.mp hnil
  subst hname
  cases h

theorem ne_dash_of_ofShort? (h : ofShort? c = some flag) : c ≠ '-' := by
  rintro rfl
  cases h

end Flag

/-! ## Storing what is pending -/

namespace Stored

variable {stored filled : Stored} {flag : Flag} {value : String}

theorem add_keeps_predicate (h : stored.add flag value = .ok filled) :
    filled.predicate = stored.predicate := by
  cases flag with
  | name | value | logLevel =>
      obtain ⟨v, -, rfl⟩ := map_eq_ok_iff.mp h
      rfl
  | set =>
      rw [add] at h
      split at h
      · cases h
        rfl
      · cases h
  | help | version =>
      cases h
      rfl

end Stored

namespace Progress

variable {p q : Progress} {argument text value : String} {stored : Stored} {flag : Flag}

/-- What is pending can be stored, and then this is. -/
def Settles (p : Progress) (stored : Stored) : Prop :=
  p.settle = .ok ⟨stored, none, p.verbatim⟩

theorem settles_iff_of_none (h : p.pending = none) : p.Settles stored ↔ p.stored = stored := by
  obtain ⟨s, pending, verbatim⟩ := p
  subst h
  simp [Settles, settle]

theorem settles_iff_of_predicate (h : p.pending = some (.predicate text)) :
    p.Settles stored ↔ { p.stored with predicate := some text } = stored := by
  simp [Settles, settle, h]

theorem settles_iff_of_option (h : p.pending = some (.option flag (some value))) :
    p.Settles stored ↔ p.stored.add flag value = .ok stored := by
  simp [Settles, settle, h]

theorem not_settles_of_awaiting (h : p.pending = some (.option flag none)) :
    ¬ p.Settles stored := by
  simp [Settles, settle, h]

theorem settle_eq_ok_iff :
    p.settle = .ok q ↔ ∃ stored, p.Settles stored ∧ q = ⟨stored, none, p.verbatim⟩ := by
  constructor
  · intro h
    obtain ⟨s, pending, verbatim⟩ := p
    obtain _ | ⟨flag, _ | value⟩ | text := pending
    · cases h
      exact ⟨s, rfl, rfl⟩
    · cases h
    · obtain ⟨filled, -, rfl⟩ := map_eq_ok_iff.mp h
      exact ⟨filled, h, rfl⟩
    · cases h
      exact ⟨_, rfl, rfl⟩
  · rintro ⟨stored, h, rfl⟩
    exact h

/-- Afterwards there is a predicate exactly if there was one or one was pending. -/
theorem Settles.predicate_eq_none_iff (h : p.Settles stored) :
    stored.predicate = none ↔
      p.stored.predicate = none ∧ ∀ text, p.pending ≠ some (.predicate text) := by
  obtain ⟨s, pending, verbatim⟩ := p
  obtain _ | ⟨flag, _ | value⟩ | text := pending
  · obtain rfl := (settles_iff_of_none rfl).mp h
    simp
  · exact absurd h (not_settles_of_awaiting rfl)
  · have hadd := (settles_iff_of_option rfl).mp h
    simp [Stored.add_keeps_predicate hadd]
  · obtain rfl := (settles_iff_of_predicate rfl).mp h
    simp

theorem settles_dashes_iff : Settles { p with verbatim := true } stored ↔ p.Settles stored := by
  obtain ⟨s, pending, verbatim⟩ := p
  obtain _ | ⟨flag, _ | value⟩ | text := pending
  · rw [settles_iff_of_none rfl, settles_iff_of_none rfl]
  · exact iff_of_false (not_settles_of_awaiting rfl) (not_settles_of_awaiting rfl)
  · rw [settles_iff_of_option rfl, settles_iff_of_option rfl]
  · rw [settles_iff_of_predicate rfl, settles_iff_of_predicate rfl]

/-! ## Predicates and options -/

theorem readPredicate_eq_ok_iff :
    p.readPredicate text = .ok q ↔ ∃ stored, p.Settles stored ∧ stored.predicate = none ∧
      q = ⟨stored, some (.predicate text), p.verbatim⟩ := by
  constructor
  · intro h
    unfold readPredicate at h
    split at h
    · cases h
    · cases h
    · rename_i hstored hpending
      obtain ⟨settled, hsettle, rfl⟩ := map_eq_ok_iff.mp h
      obtain ⟨stored, hsettles, rfl⟩ := settle_eq_ok_iff.mp hsettle
      refine ⟨stored, hsettles, hsettles.predicate_eq_none_iff.mpr ⟨?_, hpending⟩, rfl⟩
      exact Option.eq_none_iff_forall_ne_some.mpr hstored
  · rintro ⟨stored, hsettles, hnone, rfl⟩
    obtain ⟨hstored, hpending⟩ := hsettles.predicate_eq_none_iff.mp hnone
    unfold readPredicate
    split
    · rename_i old hold
      rw [hstored] at hold
      cases hold
    · rename_i heq _
      exact absurd heq (hpending _)
    · exact map_eq_ok_iff.mpr ⟨_, hsettles, rfl⟩

theorem readOption_none_iff :
    p.readOption flag none = .ok q ↔
      ∃ stored, p.Settles stored ∧ q = ⟨stored, some (.option flag none), p.verbatim⟩ := by
  unfold readOption
  split
  · rename_i e hsettle
    simp [Settles, hsettle]
  · rename_i settled hsettle
    obtain ⟨stored, hstored, rfl⟩ := settle_eq_ok_iff.mp hsettle
    simp [Settles, hsettle, eq_comm]

theorem readOption_some_iff :
    p.readOption flag (some value) = .ok q ↔
      ∃ stored filled, p.Settles stored ∧ stored.add flag value = .ok filled ∧
        ⟨filled, none, p.verbatim⟩ = q := by
  unfold readOption
  split
  · rename_i e hsettle
    simp [Settles, hsettle]
  · rename_i settled hsettle
    obtain ⟨stored, hstored, rfl⟩ := settle_eq_ok_iff.mp hsettle
    simp [Settles, hsettle]

theorem stop_ne_ok {reason : Stop} : p.stop reason ≠ .ok q := by
  intro h
  unfold stop at h
  split at h
  · cases h
  · cases h

theorem readFlag_eq_ok_iff {attached : Option String} :
    p.readFlag flag attached = .ok q ↔
      flag.takesValue = true ∧ p.readOption flag attached = .ok q := by
  cases flag with
  | help | version => simp [readFlag, Flag.takesValue, stop_ne_ok]
  | _ => simp [readFlag, Flag.takesValue]

theorem readLong_apart_iff {name : String} (h : '=' ∉ name.toList) :
    p.readLong name.toList = .ok q ↔
      ∃ flag, Flag.ofLong? name = some flag ∧ flag.takesValue = true ∧
        p.readOption flag none = .ok q := by
  unfold readLong
  simp only [takeWhile_of_not_mem h, dropWhile_of_not_mem h, String.ofList_toList]
  cases Flag.ofLong? name with
  | none => simp
  | some flag => simp [readFlag_eq_ok_iff]

theorem readLong_joined_iff {name : String} {value : List Char} (h : '=' ∉ name.toList) :
    p.readLong (name.toList ++ '=' :: value) = .ok q ↔
      ∃ flag, Flag.ofLong? name = some flag ∧ flag.takesValue = true ∧
        p.readOption flag (some (String.ofList value)) = .ok q := by
  unfold readLong
  simp only [takeWhile_of_first h, dropWhile_of_first h, String.ofList_toList]
  cases Flag.ofLong? name with
  | none => simp
  | some flag =>
      cases flag with
      | help | version => simp [Flag.takesValue]
      | _ => simp [readFlag_eq_ok_iff]

/-- What stands behind a short name in its argument, and the value that this is. -/
inductive Attached : List Char → Option String → Prop
  | nothing : Attached [] none
  | joined (value : List Char) : Attached ('=' :: value) (some (String.ofList value))
  | direct {first : Char} (value : List Char) :
      first ≠ '=' → Attached (first :: value) (some (String.ofList (first :: value)))

theorem readShort_eq_ok_iff {c : Char} {rest : List Char} {attached : Option String}
    (h : Attached rest attached) :
    p.readShort c rest = .ok q ↔
      ∃ flag, Flag.ofShort? c = some flag ∧ flag.takesValue = true ∧
        p.readOption flag attached = .ok q := by
  unfold readShort
  cases Flag.ofShort? c with
  | none => simp
  | some flag =>
      cases h with
      | nothing => simp [readFlag_eq_ok_iff]
      | joined value => simp [readFlag_eq_ok_iff]
      | direct value hfirst => simp [readFlag_eq_ok_iff, hfirst]

/-! ## One argument -/

theorem read_dashes (h : p.verbatim = false) : p.read "--" = .ok { p with verbatim := true } := by
  simp [read, h]

theorem read_long {text : List Char} (h : p.verbatim = false) (hne : text ≠ [])
    (hargument : argument.toList = '-' :: '-' :: text) : p.read argument = p.readLong text := by
  cases text with
  | nil => exact absurd rfl hne
  | cons c text => simp [read, h, hargument]

theorem read_short {c : Char} {rest : List Char} (h : p.verbatim = false) (hc : c ≠ '-')
    (hargument : argument.toList = '-' :: c :: rest) : p.read argument = p.readShort c rest := by
  simp [read, h, hargument, hc]

theorem read_plain (h : p.verbatim = false) (hargument : IsPlain argument) :
    p.read argument = (p.readPlain argument).mapError .usage := by
  unfold read
  rw [h]
  split
  · rename_i hfalse
    cases hfalse
  · split
    · rename_i heq
      exact absurd heq (hargument _ _)
    · rename_i heq
      exact absurd heq (hargument _ _)
    · rename_i heq
      exact absurd heq (hargument _ _)
    · rfl

/-- What one argument does, while no two dashes were read. -/
inductive Reads (p : Progress) : String → Progress → Prop
  | dashes : Reads p "--" { p with verbatim := true }
  | value {flag : Flag} {text : String} :
      p.pending = some (.option flag none) → IsPlain text →
      Reads p text { p with pending := some (.option flag (some text)) }
  | predicate {stored : Stored} {text : String} :
      p.Settles stored → stored.predicate = none → IsPlain text →
      Reads p text ⟨stored, some (.predicate text), p.verbatim⟩
  | opening {stored : Stored} {flag : Flag} {argument : String} :
      p.Settles stored → flag.takesValue = true → flag.Opens argument →
      Reads p argument ⟨stored, some (.option flag none), p.verbatim⟩
  | option {stored filled : Stored} {flag : Flag} {value argument : String} :
      p.Settles stored → Part.Written (.option flag value) [argument] →
      stored.add flag value = .ok filled → Reads p argument ⟨filled, none, p.verbatim⟩

theorem reads_of_readLong {text : List Char} (htext : argument.toList = '-' :: '-' :: text)
    (h : p.readLong text = .ok q) : p.Reads argument q := by
  by_cases hmem : '=' ∈ text
  · obtain ⟨front, value, rfl, hfront⟩ := List.eq_append_cons_of_mem hmem
    obtain ⟨name, rfl⟩ : ∃ name : String, name.toList = front := ⟨String.ofList front, by simp⟩
    obtain ⟨flag, hflag, htakes, hread⟩ := (readLong_joined_iff hfront).mp h
    obtain ⟨stored, filled, hstored, hadd, rfl⟩ := readOption_some_iff.mp hread
    have hargument : argument = "--" ++ name ++ "=" ++ String.ofList value := by
      apply String.toList_inj.mp
      simp [htext]
    rw [hargument]
    exact .option hstored (.joined htakes (.long hflag)) hadd
  · obtain ⟨name, rfl⟩ : ∃ name : String, name.toList = text := ⟨String.ofList text, by simp⟩
    obtain ⟨flag, hflag, htakes, hread⟩ := (readLong_apart_iff hmem).mp h
    obtain ⟨stored, hstored, rfl⟩ := readOption_none_iff.mp hread
    have hargument : argument = "--" ++ name := by
      apply String.toList_inj.mp
      simp [htext]
    rw [hargument]
    exact .opening hstored htakes (.long hflag)

theorem reads_of_readShort {c : Char} {rest : List Char}
    (htext : argument.toList = '-' :: c :: rest) (h : p.readShort c rest = .ok q) :
    p.Reads argument q := by
  cases rest with
  | nil =>
      obtain ⟨flag, hflag, htakes, hread⟩ := (readShort_eq_ok_iff .nothing).mp h
      obtain ⟨stored, hstored, rfl⟩ := readOption_none_iff.mp hread
      have hargument : argument = "-" ++ String.singleton c := by
        apply String.toList_inj.mp
        simp [htext]
      rw [hargument]
      exact .opening hstored htakes (.short hflag)
  | cons first value =>
      by_cases hfirst : first = '='
      · subst hfirst
        obtain ⟨flag, hflag, htakes, hread⟩ := (readShort_eq_ok_iff (.joined value)).mp h
        obtain ⟨stored, filled, hstored, hadd, rfl⟩ := readOption_some_iff.mp hread
        have hargument : argument = "-" ++ String.singleton c ++ "=" ++ String.ofList value := by
          apply String.toList_inj.mp
          simp [htext]
        rw [hargument]
        exact .option hstored (.joined htakes (.short hflag)) hadd
      · obtain ⟨flag, hflag, htakes, hread⟩ := (readShort_eq_ok_iff (.direct value hfirst)).mp h
        obtain ⟨stored, filled, hstored, hadd, rfl⟩ := readOption_some_iff.mp hread
        have hargument :
            argument = "-" ++ String.singleton c ++ String.ofList (first :: value) := by
          apply String.toList_inj.mp
          simp [htext]
        rw [hargument]
        refine .option hstored (.attached htakes hflag ?_ ?_) hadd
        · simp
        · simpa using hfirst

theorem reads_of_readPlain (htext : IsPlain text) (h : p.readPlain text = .ok q) :
    p.Reads text q := by
  unfold readPlain at h
  split at h
  · rename_i hpending _
    cases h
    exact .value hpending htext
  · obtain ⟨stored, hstored, hnone, rfl⟩ := readPredicate_eq_ok_iff.mp h
    exact .predicate hstored hnone htext

theorem read_of_opens (hverbatim : p.verbatim = false) (htakes : flag.takesValue = true)
    (hopens : flag.Opens argument) (h : p.readOption flag none = .ok q) :
    p.read argument = .ok q := by
  cases hopens with
  | long hflag =>
      rw [read_long hverbatim (Flag.ne_nil_of_ofLong? hflag) (by simp)]
      exact (readLong_apart_iff (Flag.not_mem_of_ofLong? hflag)).mpr ⟨flag, hflag, htakes, h⟩
  | @short c hflag =>
      have htext : ("-" ++ String.singleton c).toList = ['-', c] := by simp
      rw [read_short hverbatim (Flag.ne_dash_of_ofShort? hflag) htext]
      exact (readShort_eq_ok_iff .nothing).mpr ⟨flag, hflag, htakes, h⟩

theorem read_of_written (hverbatim : p.verbatim = false)
    (hwritten : Part.Written (.option flag value) [argument])
    (h : p.readOption flag (some value) = .ok q) : p.read argument = .ok q := by
  obtain ⟨value, rfl⟩ : ∃ chars, String.ofList chars = value := ⟨value.toList, by simp⟩
  cases hwritten with
  | joined htakes hopens =>
      cases hopens with
      | @long name hflag =>
          have htext : ("--" ++ name ++ "=" ++ String.ofList value).toList =
              '-' :: '-' :: (name.toList ++ '=' :: value) := by simp
          rw [read_long hverbatim (by simp) htext]
          exact (readLong_joined_iff (Flag.not_mem_of_ofLong? hflag)).mpr ⟨flag, hflag, htakes, h⟩
      | @short c hflag =>
          have htext : ("-" ++ String.singleton c ++ "=" ++ String.ofList value).toList =
              '-' :: c :: '=' :: value := by simp
          rw [read_short hverbatim (Flag.ne_dash_of_ofShort? hflag) htext]
          exact (readShort_eq_ok_iff (.joined value)).mpr ⟨flag, hflag, htakes, h⟩
  | @attached _ c _ htakes hflag hne hfirst =>
      cases value with
      | nil => exact absurd rfl hne
      | cons first value =>
          have htext : ("-" ++ String.singleton c ++ String.ofList (first :: value)).toList =
              '-' :: c :: first :: value := by simp
          rw [read_short hverbatim (Flag.ne_dash_of_ofShort? hflag) htext]
          have hdirect : first ≠ '=' := by simpa using hfirst
          exact (readShort_eq_ok_iff (.direct value hdirect)).mpr ⟨flag, hflag, htakes, h⟩

theorem read_eq_ok_iff (hverbatim : p.verbatim = false) :
    p.read argument = .ok q ↔ p.Reads argument q := by
  constructor
  · intro h
    rcases argument_cases argument with rfl | ⟨text, hne, htext⟩ | ⟨c, rest, hc, htext⟩ | hplain
    · rw [read_dashes hverbatim] at h
      cases h
      exact .dashes
    · rw [read_long hverbatim hne htext] at h
      exact reads_of_readLong htext h
    · rw [read_short hverbatim hc htext] at h
      exact reads_of_readShort htext h
    · rw [read_plain hverbatim hplain, mapError_eq_ok_iff] at h
      exact reads_of_readPlain hplain h
  · intro h
    cases h with
    | dashes => exact read_dashes hverbatim
    | value hpending hplain =>
        rw [read_plain hverbatim hplain]
        simp [readPlain, hpending, hverbatim, Except.mapError]
    | predicate hstored hnone hplain =>
        rw [read_plain hverbatim hplain, mapError_eq_ok_iff]
        unfold readPlain
        split
        · rename_i hpending _
          exact absurd hstored (not_settles_of_awaiting hpending)
        · exact readPredicate_eq_ok_iff.mpr ⟨_, hstored, hnone, rfl⟩
    | opening hstored htakes hopens =>
        exact read_of_opens hverbatim htakes hopens
          (readOption_none_iff.mpr ⟨_, hstored, rfl⟩)
    | option hstored hwritten hadd =>
        exact read_of_written hverbatim hwritten
          (readOption_some_iff.mpr ⟨_, _, hstored, hadd, rfl⟩)

end Progress

end FieldPredicate.CommandLine
