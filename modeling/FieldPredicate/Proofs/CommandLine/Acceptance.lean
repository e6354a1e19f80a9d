import FieldPredicate.Proofs.CommandLine.OneArgument
import Mathlib.Tactic.MkIffOfInductiveProp

/-!
# Which command lines are accepted

A command line asks for an evaluation exactly if it says parts that ask for it. Forward, by
induction over the parts, every part is read and stored. Backward, by induction over the arguments,
what is left of them says parts that are stored behind what is stored already; if an option still
waits for its value, the value comes first.
-/

namespace FieldPredicate.CommandLine

/-! ## What the parts store -/

theorem splitBinding?_eq_some_iff {text : String} {binding : String × String} :
    splitBinding? text = some binding ↔ IsBinding text binding := by
  obtain ⟨name, expression⟩ := binding
  unfold splitBinding?
  constructor
  · intro h
    by_cases hmem : '=' ∈ text.toList
    · obtain ⟨front, back, htext, hfront⟩ := List.eq_append_cons_of_mem hmem
      rw [htext, dropWhile_of_first hfront, takeWhile_of_first hfront] at h
      simp only [Option.ite_none_left_eq_some, Option.some.injEq, Prod.mk.injEq] at h
      obtain ⟨hne, rfl, rfl⟩ := h
      refine ⟨String.ofList front, by simpa using hfront, ?_, rfl, hne⟩
      apply String.toList_inj.mp
      simp [htext]
    · rw [dropWhile_of_not_mem hmem] at h
      cases h
  · rintro ⟨front, hfront, rfl, hname, hne⟩
    have htext : (front ++ "=" ++ expression).toList =
        front.toList ++ '=' :: expression.toList := by simp
    simp only at hname hne
    simp only [htext, dropWhile_of_first hfront, takeWhile_of_first hfront, String.ofList_toList]
    simp [← hname, hne]

namespace Stored

/-- The parts are stored behind what is stored already. -/
@[mk_iff]
structure Gathers (stored : Stored) (parts : List Part) (final : Stored) : Prop where
  predicate : final.predicate.toList = stored.predicate.toList ++ predicatesOf parts
  name : final.name.toList = stored.name.toList ++ valuesOf .name parts
  bindings : ∃ added, List.Forall₂ IsBinding (valuesOf .set parts) added ∧
    final.bindings = stored.bindings ++ added
  value : final.value.toList = stored.value.toList ++ valuesOf .value parts
  logLevel : final.logLevel.toList = stored.logLevel.toList ++ valuesOf .logLevel parts

variable {stored final : Stored} {parts : List Part}

theorem gathers_nil (stored : Stored) : stored.Gathers [] stored := by
  refine ⟨?_, ?_, ⟨[], .nil, ?_⟩, ?_, ?_⟩ <;> simp

theorem toList_eq_toList_iff {new old : Option String} : new.toList = old.toList ↔ new = old := by
  cases old with
  | none => simp
  | some old => cases new <;> simp

theorem toList_eq_append_cons_iff {new old : Option String} {value : String} {rest : List String} :
    new.toList = old.toList ++ value :: rest ↔ old = none ∧ new.toList = value :: rest := by
  cases old with
  | none => simp
  | some old => cases new <;> simp

theorem eq_of_gathers_nil (h : stored.Gathers [] final) : final = stored := by
  obtain ⟨hpredicate, hname, ⟨added, hadded, hbindings⟩, hvalue, hlevel⟩ := h
  obtain rfl : added = [] := List.forall₂_nil_left_iff.mp hadded
  obtain ⟨predicate, name, bindings, value, level⟩ := stored
  simp only [predicatesOf_nil, valuesOf_nil, List.append_nil, toList_eq_toList_iff]
    at hpredicate hname hbindings hvalue hlevel
  rw [← hpredicate, ← hname, ← hbindings, ← hvalue, ← hlevel]

theorem gathers_predicate_iff {text : String} :
    stored.Gathers (.predicate text :: parts) final ↔
      stored.predicate = none ∧ Gathers { stored with predicate := some text } parts final := by
  constructor
  · rintro ⟨hpredicate, hname, hbindings, hvalue, hlevel⟩
    obtain ⟨hnone, hpredicate⟩ := toList_eq_append_cons_iff.mp hpredicate
    exact ⟨hnone, hpredicate, hname, hbindings, hvalue, hlevel⟩
  · rintro ⟨hnone, hpredicate, hname, hbindings, hvalue, hlevel⟩
    exact ⟨toList_eq_append_cons_iff.mpr ⟨hnone, hpredicate⟩, hname, hbindings, hvalue, hlevel⟩

theorem once_eq_ok_iff {flag : Flag} {old new : Option String} {value : String} :
    once flag old value = .ok new ↔ old = none ∧ some value = new := by
  cases old with
  | none => simp [once]
  | some old => simp [once]

theorem add_set_eq_ok_iff {value : String} {filled : Stored} :
    stored.add .set value = .ok filled ↔
      ∃ binding, IsBinding value binding ∧
        { stored with bindings := stored.bindings ++ [binding] } = filled := by
  simp only [← splitBinding?_eq_some_iff]
  unfold add
  cases splitBinding? value with
  | none => simp
  | some binding => simp

theorem gathers_option_iff {flag : Flag} {value : String} :
    stored.Gathers (.option flag value :: parts) final ↔
      ∃ filled, stored.add flag value = .ok filled ∧ filled.Gathers parts final := by
  cases flag with
  | name | value | logLevel =>
      simp [add, once_eq_ok_iff, gathers_iff, toList_eq_append_cons_iff, and_left_comm, and_assoc]
  | set =>
      constructor
      · rintro ⟨hpredicate, hname, ⟨added, hadded, hbindings⟩, hvalue, hlevel⟩
        obtain ⟨binding, others, hbinding, hothers, rfl⟩ := List.forall₂_cons_left_iff.mp hadded
        refine ⟨_, add_set_eq_ok_iff.mpr ⟨binding, hbinding, rfl⟩, ?_⟩
        exact ⟨hpredicate, hname, ⟨others, hothers, by simp [hbindings]⟩, hvalue, hlevel⟩
      · rintro ⟨filled, hadd, hpredicate, hname, ⟨others, hothers, hbindings⟩, hvalue, hlevel⟩
        obtain ⟨binding, hbinding, rfl⟩ := add_set_eq_ok_iff.mp hadd
        refine ⟨hpredicate, hname, ⟨binding :: others, ?_, ?_⟩, hvalue, hlevel⟩
        · exact .cons hbinding hothers
        · simp [hbindings]
  | help | version => simp [add, gathers_iff]

end Stored

namespace Progress

variable {p q : Progress} {stored final : Stored} {argument : String} {arguments : List String}
  {parts : List Part}

/-! ## Whole command lines -/

/-- The reading goes on to the end of the arguments, and then this is stored. -/
def Finishes (p : Progress) (arguments : List String) (final : Stored) : Prop :=
  ∃ q, p.readAll arguments = .ok q ∧ q.Settles final

theorem finishes_nil_iff : p.Finishes [] final ↔ p.Settles final := by
  simp [Finishes, readAll]

theorem finishes_cons_iff :
    p.Finishes (argument :: arguments) final ↔
      ∃ q, p.read argument = .ok q ∧ q.Finishes arguments final := by
  unfold Finishes
  rw [readAll]
  cases p.read argument with
  | error e => simp
  | ok q => simp

theorem finishes_of_reads (hverbatim : p.verbatim = false) (hread : p.Reads argument q)
    (h : q.Finishes arguments final) : p.Finishes (argument :: arguments) final :=
  finishes_cons_iff.mpr ⟨q, (read_eq_ok_iff hverbatim).mpr hread, h⟩

/-! ### Behind the dashes -/

theorem read_verbatim_iff (h : p.verbatim = true) :
    p.read argument = .ok q ↔ ∃ stored, p.Settles stored ∧ stored.predicate = none ∧
      q = ⟨stored, some (.predicate argument), true⟩ := by
  have hread : p.read argument = (p.readPredicate argument).mapError .usage := by
    simp [read, readPlain, h]
  rw [hread, mapError_eq_ok_iff, readPredicate_eq_ok_iff, h]

theorem finishes_verbatim_iff (h : p.verbatim = true) :
    p.Finishes arguments final ↔ arguments = [] ∧ p.Settles final ∨
      ∃ text stored, arguments = [text] ∧ p.Settles stored ∧ stored.predicate = none ∧
        { stored with predicate := some text } = final := by
  constructor
  · intro hfinishes
    cases arguments with
    | nil => exact .inl ⟨rfl, finishes_nil_iff.mp hfinishes⟩
    | cons text rest =>
        obtain ⟨q, hread, hfinishes⟩ := finishes_cons_iff.mp hfinishes
        obtain ⟨stored, hstored, hnone, rfl⟩ := (read_verbatim_iff h).mp hread
        cases rest with
        | nil =>
            have hfinal := (settles_iff_of_predicate rfl).mp (finishes_nil_iff.mp hfinishes)
            exact .inr ⟨text, stored, rfl, hstored, hnone, hfinal⟩
        | cons next more =>
            -- The predicate that waits to be stored leaves no room for another one.
            obtain ⟨q, hread, -⟩ := finishes_cons_iff.mp hfinishes
            obtain ⟨filled, hfilled, hnone, -⟩ := (read_verbatim_iff rfl).mp hread
            obtain rfl := (settles_iff_of_predicate rfl).mp hfilled
            cases hnone
  · rintro (⟨rfl, hsettles⟩ | ⟨text, stored, rfl, hsettles, hnone, rfl⟩)
    · exact finishes_nil_iff.mpr hsettles
    · refine finishes_cons_iff.mpr ⟨_, (read_verbatim_iff h).mpr ⟨_, hsettles, hnone, rfl⟩, ?_⟩
      exact finishes_nil_iff.mpr ((settles_iff_of_predicate rfl).mpr rfl)

/-! ### In front of the dashes -/

theorem finishes_of_spells (hspells : Spells arguments parts) (hverbatim : p.verbatim = false)
    (hsettles : p.Settles stored) (hgathers : stored.Gathers parts final) :
    p.Finishes arguments final := by
  induction hspells generalizing p stored with
  | nil =>
      obtain rfl := Stored.eq_of_gathers_nil hgathers
      exact finishes_nil_iff.mpr hsettles
  | dashes =>
      obtain rfl := Stored.eq_of_gathers_nil hgathers
      refine finishes_of_reads hverbatim .dashes ((finishes_verbatim_iff rfl).mpr ?_)
      exact .inl ⟨rfl, settles_dashes_iff.mpr hsettles⟩
  | verbatim text =>
      obtain ⟨hnone, hgathers⟩ := Stored.gathers_predicate_iff.mp hgathers
      obtain rfl := Stored.eq_of_gathers_nil hgathers
      refine finishes_of_reads hverbatim .dashes ((finishes_verbatim_iff rfl).mpr ?_)
      exact .inr ⟨text, stored, rfl, settles_dashes_iff.mpr hsettles, hnone, rfl⟩
  | cons hwritten hspells ih =>
      cases hwritten with
      | predicate hplain =>
          obtain ⟨hnone, hgathers⟩ := Stored.gathers_predicate_iff.mp hgathers
          refine finishes_of_reads hverbatim (.predicate hsettles hnone hplain) ?_
          exact ih hverbatim ((settles_iff_of_predicate rfl).mpr rfl) hgathers
      | apart htakes hopens hplain =>
          obtain ⟨filled, hadd, hgathers⟩ := Stored.gathers_option_iff.mp hgathers
          refine finishes_of_reads hverbatim (.opening hsettles htakes hopens) ?_
          refine finishes_of_reads hverbatim (.value rfl hplain) ?_
          exact ih hverbatim ((settles_iff_of_option rfl).mpr hadd) hgathers
      | joined htakes hopens =>
          obtain ⟨filled, hadd, hgathers⟩ := Stored.gathers_option_iff.mp hgathers
          refine finishes_of_reads hverbatim (.option hsettles (.joined htakes hopens) hadd) ?_
          exact ih hverbatim ((settles_iff_of_none rfl).mpr rfl) hgathers
      | attached htakes hflag hne hfirst =>
          obtain ⟨filled, hadd, hgathers⟩ := Stored.gathers_option_iff.mp hgathers
          refine finishes_of_reads hverbatim
            (.option hsettles (.attached htakes hflag hne hfirst) hadd) ?_
          exact ih hverbatim ((settles_iff_of_none rfl).mpr rfl) hgathers

/-- What the arguments must say for the reading to finish with this stored. The value of an option
that was read alone comes first. -/
inductive Completes (p : Progress) (final : Stored) : List String → Prop
  | settled {stored : Stored} {arguments : List String} {parts : List Part} :
      p.Settles stored → Spells arguments parts → stored.Gathers parts final →
      Completes p final arguments
  | awaiting {flag : Flag} {value : String} {arguments : List String} {parts : List Part} :
      p.pending = some (.option flag none) → IsPlain value → Spells arguments parts →
      p.stored.Gathers (.option flag value :: parts) final →
      Completes p final (value :: arguments)

theorem completes_of_finishes_verbatim (h : Finishes { p with verbatim := true } arguments final) :
    p.Completes final ("--" :: arguments) := by
  rcases (finishes_verbatim_iff rfl).mp h with
    ⟨rfl, hsettles⟩ | ⟨text, stored, rfl, hsettles, hnone, rfl⟩
  · exact .settled (settles_dashes_iff.mp hsettles) .dashes (Stored.gathers_nil final)
  · refine .settled (settles_dashes_iff.mp hsettles) (.verbatim text) ?_
    exact Stored.gathers_predicate_iff.mpr ⟨hnone, Stored.gathers_nil _⟩

theorem completes_of_finishes (hfinishes : p.Finishes arguments final)
    (hverbatim : p.verbatim = false) : p.Completes final arguments := by
  induction arguments generalizing p with
  | nil => exact .settled (finishes_nil_iff.mp hfinishes) .nil (Stored.gathers_nil final)
  | cons argument rest ih =>
      obtain ⟨q, hread, hfinishes⟩ := finishes_cons_iff.mp hfinishes
      cases (read_eq_ok_iff hverbatim).mp hread with
      | dashes => exact completes_of_finishes_verbatim hfinishes
      | value hpending hplain =>
          cases ih hfinishes hverbatim with
          | settled hsettles hspells hgathers =>
              have hadd := (settles_iff_of_option rfl).mp hsettles
              refine .awaiting hpending hplain hspells ?_
              exact Stored.gathers_option_iff.mpr ⟨_, hadd, hgathers⟩
          | awaiting hawaits => cases hawaits
      | predicate hsettles hnone hplain =>
          cases ih hfinishes hverbatim with
          | settled hsettled hspells hgathers =>
              obtain rfl := (settles_iff_of_predicate rfl).mp hsettled
              refine .settled hsettles (.cons (.predicate hplain) hspells) ?_
              exact Stored.gathers_predicate_iff.mpr ⟨hnone, hgathers⟩
          | awaiting hawaits => cases hawaits
      | opening hsettles htakes hopens =>
          cases ih hfinishes hverbatim with
          | settled hsettled => exact absurd hsettled (not_settles_of_awaiting rfl)
          | awaiting hawaits hplain hspells hgathers =>
              cases hawaits
              exact .settled hsettles (.cons (.apart htakes hopens hplain) hspells) hgathers
      | option hsettles hwritten hadd =>
          cases ih hfinishes hverbatim with
          | settled hsettled hspells hgathers =>
              obtain rfl := (settles_iff_of_none rfl).mp hsettled
              refine .settled hsettles (.cons hwritten hspells) ?_
              exact Stored.gathers_option_iff.mpr ⟨_, hadd, hgathers⟩
          | awaiting hawaits => cases hawaits

end Progress

/-! ## Requests -/

def Stored.empty : Stored :=
  ⟨none, none, [], none, none⟩

namespace Request

variable {request : Request} {stored : Stored} {parts : List Part} {arguments : List String}

/-- The request that is made of what is stored. -/
def OfStored (request : Request) (stored : Stored) : Prop :=
  stored.predicate = some request.predicate ∧ stored.name.getD "predicate" = request.name ∧
    stored.bindings = request.bindings ∧ stored.value = request.value ∧
    stored.logLevel.getD "warn" = request.logLevel

theorem ofArguments_eq_ok_iff_finishes :
    ofArguments arguments = .ok request ↔
      ∃ stored, Progress.Finishes ⟨.empty, none, false⟩ arguments stored ∧
        request.OfStored stored := by
  obtain ⟨text, name, bindings, value, level⟩ := request
  unfold ofArguments Progress.Finishes Stored.empty
  cases Progress.readAll ⟨⟨none, none, [], none, none⟩, none, false⟩ arguments with
  | error e => simp
  | ok p =>
      simp only [Except.ok.injEq, exists_eq_left']
      cases hsettle : p.settle with
      | error e => simp [Progress.Settles, hsettle]
      | ok q =>
          obtain ⟨stored, hstored, rfl⟩ := Progress.settle_eq_ok_iff.mp hsettle
          cases hpredicate : stored.predicate with
          | none => simp [Progress.Settles, hsettle, OfStored, hpredicate]
          | some predicate => simp [Progress.Settles, hsettle, OfStored, hpredicate]

theorem isOnly_iff {values : List String} {default value : String} :
    IsOnly values default value ↔
      ∃ only : Option String, only.toList = values ∧ only.getD default = value := by
  constructor
  · rintro (⟨rfl, rfl⟩ | rfl)
    · exact ⟨none, rfl, rfl⟩
    · exact ⟨some value, rfl, rfl⟩
  · rintro ⟨only, rfl, rfl⟩
    cases only with
    | none => exact .inl ⟨rfl, rfl⟩
    | some value => exact .inr rfl

theorem asks_iff :
    Asks parts request ↔ ∃ stored, Stored.empty.Gathers parts stored ∧ request.OfStored stored := by
  constructor
  · rintro ⟨hpredicate, hname, hbindings, hvalue, hlevel⟩
    obtain ⟨name, hname, hnamed⟩ := isOnly_iff.mp hname
    obtain ⟨level, hlevel, hleveled⟩ := isOnly_iff.mp hlevel
    refine ⟨⟨some request.predicate, name, request.bindings, request.value, level⟩, ?_, ?_⟩
    · exact ⟨hpredicate.symm, hname, ⟨request.bindings, hbindings, rfl⟩, hvalue.symm, hlevel⟩
    · exact ⟨rfl, hnamed, rfl, rfl, hleveled⟩
  · rintro ⟨stored, ⟨hpredicate, hname, ⟨added, hadded, hbindings⟩, hvalue, hlevel⟩,
      hrequested, hnamed, hbound, hvalued, hleveled⟩
    refine ⟨?_, isOnly_iff.mpr ⟨_, hname, hnamed⟩, ?_, ?_, isOnly_iff.mpr ⟨_, hlevel, hleveled⟩⟩
    · rw [hrequested] at hpredicate
      exact hpredicate.symm
    · rw [← hbound, hbindings]
      exact hadded
    · rw [← hvalued]
      exact hvalue.symm

theorem ofArguments_eq_ok_iff :
    ofArguments arguments = .ok request ↔ ∃ parts, Spells arguments parts ∧ Asks parts request := by
  simp only [ofArguments_eq_ok_iff_finishes, asks_iff]
  constructor
  · rintro ⟨stored, hfinishes, hrequest⟩
    cases Progress.completes_of_finishes hfinishes rfl with
    | settled hsettles hspells hgathers =>
        obtain rfl := (Progress.settles_iff_of_none rfl).mp hsettles
        exact ⟨_, hspells, stored, hgathers, hrequest⟩
    | awaiting hawaits => cases hawaits
  · rintro ⟨parts, hspells, stored, hgathers, hrequest⟩
    have hempty : Progress.Settles ⟨.empty, none, false⟩ .empty :=
      (Progress.settles_iff_of_none rfl).mpr rfl
    exact ⟨stored, Progress.finishes_of_spells hspells rfl hempty hgathers, hrequest⟩

end Request

end FieldPredicate.CommandLine
