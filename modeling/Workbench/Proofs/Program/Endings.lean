import Workbench.Proofs.Form.Measures
import Workbench.Proofs.Program.Literals
import Workbench.Proofs.Program.Nesting
import Workbench.Proofs.Program.Pieces

/-!
# What forms and faults owe to the tokens

A program that is at fault is reported with the end of a top-level form, if that form ends anywhere.
**Theorem** (`Program.measures_of_parse`): the size and the end of a program and of everything in it
can be read off its tokens, and a fault comes without a place exactly if there is neither a word nor
a literal outside of parameter lists among the tokens of the top-level form that failed.

* What forms owe to the tokens is said in `Workbench.Proofs.Form.Measures`.
* Evaluation reports no places by itself (`Eval.raw_eval`), so that the place of a fault is always
  that of the top-level form.
* A program fails in one of its top-level forms, and those before it have been evaluated
  (`Program.outcome_eq_fault_iff`).
-/

namespace Workbench

/-! ### Failures without a place -/

/-- How evaluation fails by itself: at fault, with no place known, or at one of its limits. -/
inductive Failure.IsRaw : Failure → Prop where
  | fault (cause : Fault) : IsRaw (.fault cause none)
  | callDepth (limit : Nat) : IsRaw (.callDepth limit)
  | nesting (limit : Nat) : IsRaw (.nesting limit)

/-- A message says nothing of a place exactly if there is none. -/
theorem Failure.message_fault_iff {cause : Fault} {ending : Option Position} :
    (Failure.fault cause ending).message = "evaluation error: " ++ cause.message ↔
      ending = none := by
  cases ending with
  | none => exact iff_of_true rfl rfl
  | some place =>
      refine iff_of_false (fun h => ?_) nofun
      change "evaluation error: " ++ cause.message ++ " (in expression ending at " ++
        place.render ++ ")" = "evaluation error: " ++ cause.message at h
      have hlength := congrArg String.length h
      rw [String.length_append, String.length_append, String.length_append] at hlength
      have hmark : ")".length = 1 := rfl
      omega

namespace Eval

variable {ω α : Type}

/-- Whenever the step fails, it reports no place. -/
def Raw (step : Eval ω α) : Prop :=
  ∀ machine failure, (step machine).1 = .error failure → failure.IsRaw

/-- The pairing of steps that report no place. -/
def rawly : Pairing ω ω :=
  .keeping (fun _ => True) (fun failure _ => failure.IsRaw) fun cause _ => .fault cause

/-- What is true of every step that fails in no other way than evaluation does by itself. -/
theorem keeps_of_raw {wanted : α → Prop} (hwanted : ∀ a, wanted a) {step : Eval ω α}
    (h : Raw step) : Keeps (fun _ => True) (fun failure _ => failure.IsRaw) wanted step :=
  fun machine _ => ⟨trivial, fun a _ => hwanted a, h machine⟩

/-- The steps of the machine report no places. -/
theorem raw_uniform (bounds : Bounds) :
    (rawly (ω := ω)).Uniform (fun _ => True) bounds bounds where
  call _ _ _ _ := trivial
  list _ _ _ _ := trivial
  lookup _ _ := keeps_of_raw
    (fun value => ⟨value, Value.carries_of_forall (fun _ => trivial) value, rfl⟩) fun _ _ => nofun
  makeFunction _ _ _ _ _ := keeps_of_raw
    (fun value => ⟨value, Value.carries_of_forall (fun _ => trivial) value, rfl⟩) fun _ _ => nofun
  define _ _ _ := keeps_of_raw (fun _ => ⟨(), trivial⟩) fun _ _ => nofun
  raise _ := keeps_of_raw (fun _ => ⟨(), trivial⟩) fun _ _ => nofun
  framed _ _ _ _ _ h :=
    Keeps.framed (fun _ => .callDepth bounds.calls) (fun _ => trivial) (fun _ => trivial) h
  full := fun _ _ => kept_error (.nesting bounds.nesting) trivial

/-- **Evaluation reports no places.** -/
theorem raw_eval (bounds : Bounds) (allowance : Nat) (form : Form) :
    Raw (eval bounds allowance form : Eval ω Value) := by
  have hform : (rawly (ω := ω)).Pairs (Twice (Value.Carries fun _ => True))
      (eval bounds allowance form) (eval bounds allowance form) :=
    (raw_uniform bounds).closed.eval allowance ⟨trivial, rfl⟩
  intro machine failure hfailure
  have hkept := @hform machine trivial
  exact hkept.failure failure hfailure

/-! ### The form that fails -/

/-- Forms one after the other fail in one of them, after those before it. -/
theorem evalLast_eq_error_iff {inside : Form → Eval ω Value} {last : Value} {forms : List Form}
    {machine after : Machine ω} {failure : Failure} :
    evalLast inside last forms machine = (.error failure, after) ↔
      ∃ before form later value between, forms = before ++ form :: later ∧
        evalLast inside last before machine = (.ok value, between) ∧
        inside form between = (.error failure, after) := by
  constructor
  · -- Either the first form fails, or one of the others does in the machine that it has left.
    intro h
    induction forms generalizing last machine with
    | nil => cases h
    | cons form rest ih =>
        rw [evalLast] at h
        rcases hform : inside form machine with ⟨failure' | value, between⟩
        · rw [bind_of_error hform] at h
          cases h
          exact ⟨[], form, rest, last, machine, rfl, rfl, hform⟩
        · rw [bind_of_ok hform] at h
          obtain ⟨before, failing, later, last', between', rfl, hbefore, hfailing⟩ := ih h
          refine ⟨form :: before, failing, later, last', between', rfl, ?_, hfailing⟩
          rw [evalLast, bind_of_ok hform, hbefore]
  · rintro ⟨before, form, later, value, between, rfl, hbefore, hform⟩
    rw [evalLast_append, bind_of_ok hbefore, evalLast, bind_of_error hform]

/-- A top-level form is at fault where it ends. -/
theorem evalTop_eq_fault_iff {bounds : Bounds} {form : Form} {machine after : Machine ω}
    {cause : Fault} {ending : Option Position} :
    evalTop bounds form machine = (.error (.fault cause ending), after) ↔
      eval bounds bounds.nesting form machine = (.error (.fault cause none), after) ∧
        ending = form.lastPlace := by
  have hraw := raw_eval bounds bounds.nesting form machine
  unfold evalTop
  constructor
  · intro h
    -- A failure that had a place already would keep it, but none has.
    generalize eval bounds bounds.nesting form machine = result at h hraw
    obtain ⟨failure | value, after'⟩ := result
    · cases hraw failure rfl <;> cases h
      exact ⟨rfl, rfl⟩
    · cases h
  · rintro ⟨h, rfl⟩
    rw [h]
    rfl

end Eval

namespace Program

open Form (Derives DerivesAll Part)
open Token (atoms lastEnd)

/-- A program comes to one of its forms and fails there: among fresh globals the forms before it are
evaluated, and then its own evaluation ends in the failure. -/
def FailsAt (limits : Limits) (before : List Form) (form : Form) (failure : Failure) : Prop :=
  ∃ value between after,
    Eval.evalProgram limits.bounds (.call before) (Machine.recording Frame.standard) =
      (.ok value, between) ∧
    Eval.eval limits.bounds limits.bounds.nesting form between = (.error failure, after)

/-- **A program is at fault in one of its top-level forms**, and where that form ends. -/
theorem outcome_eq_fault_iff {limits : Limits} {source : String} {forms : List Form}
    (hparse : Form.parse limits.nestingDepth (Token.tokenize source) = .ok (.call forms))
    {cause : Fault} {ending : Option Position} :
    (run limits source).outcome = .error (.fault cause ending) ↔
      ∃ before form later, forms = before ++ form :: later ∧
        FailsAt limits before form (.fault cause none) ∧ ending = form.lastPlace := by
  have hrun : (run limits source).outcome = .error (.fault cause ending) ↔
      ∃ after, Eval.evalProgram limits.bounds (.call forms) (Machine.recording Frame.standard) =
        (.error (.fault cause ending), after) := by
    constructor
    · exact fun h => ⟨_, Prod.ext (evalProgram_of_run hparse h) rfl⟩
    · rintro ⟨after, h⟩
      rw [run_eq_of_parse hparse, h]
      rfl
  rw [hrun]
  constructor
  · rintro ⟨after, h⟩
    obtain ⟨before, form, later, value, between, hforms, hbefore, hform⟩ :=
      Eval.evalLast_eq_error_iff.mp h
    obtain ⟨hfault, hending⟩ := Eval.evalTop_eq_fault_iff.mp hform
    exact ⟨before, form, later, hforms, ⟨value, between, after, hbefore, hfault⟩, hending⟩
  · rintro ⟨before, form, later, hforms, ⟨value, between, after, hbefore, hfault⟩, hending⟩
    refine ⟨after, Eval.evalLast_eq_error_iff.mpr ?_⟩
    exact ⟨before, form, later, value, between, hforms, hbefore,
      Eval.evalTop_eq_fault_iff.mpr ⟨hfault, hending⟩⟩

/-! ### Programs and their tokens -/

/-- What an outcome owes to the tokens of some top-level forms: it is a fault only if one of them
fails, and the fault has no place, in its message neither, exactly if that form has neither a word
nor a literal outside of parameter lists. -/
structure FaultsPlaced (limits : Limits) (forms : List Form) (outcome : Except Failure Output) :
    Prop where
  failed : ∀ cause ending, outcome = .error (.fault cause ending) →
    ∃ before form later, forms = before ++ form :: later ∧
      FailsAt limits before form (.fault cause none)
  placed : ∀ before form later cause, forms = before ++ form :: later →
    FailsAt limits before form (.fault cause none) → ∀ own, Derives own form →
      ∃ ending, outcome = .error (.fault cause ending) ∧ ending = lastEnd own ∧
        (ending = none ↔ atoms own = []) ∧
        ((Failure.fault cause ending).message = "evaluation error: " ++ cause.message ↔
          atoms own = [])

/-- The outcome of a text that is accepted owes this to its forms. -/
theorem faultsPlaced_of_parse {limits : Limits} {source : String} {forms : List Form}
    (hparse : Form.parse limits.nestingDepth (Token.tokenize source) = .ok (.call forms)) :
    FaultsPlaced limits forms (run limits source).outcome where
  failed cause ending h := by
    obtain ⟨before, form, later, hforms, hfails, -⟩ := (outcome_eq_fault_iff hparse).mp h
    exact ⟨before, form, later, hforms, hfails⟩
  placed before form later cause hforms hfails own hown := by
    refine ⟨lastEnd own, (outcome_eq_fault_iff hparse).mpr ?_, rfl, Token.lastEnd_eq_none_iff, ?_⟩
    · exact ⟨before, form, later, hforms, hfails, hown.lastPlace_eq.symm⟩
    · rw [Failure.message_fault_iff, Token.lastEnd_eq_none_iff]

variable {ω : Type}

/-- **The tokens tell how large a program is and where everything in it ends.** Its size is one more
than the number of tokens with which forms and parameter lists start, less the words of functions.
It ends as its tokens do, and so does every form in it, whose tokens stand together among those of
the program. When the program is at fault, one of its top-level forms has failed, and there is no
place exactly if that form has neither a word nor a literal outside of parameter lists. -/
theorem measures_of_parse (limits : Limits) {tokens : List Token} {root : Form}
    (hparse : Form.parse limits.nestingDepth tokens = .ok root) :
    root.size + tokens.countP Token.isFunctionWord = 1 + tokens.countP Token.startsForm ∧
    Form.EndsLike tokens root ∧
    ∃ forms, root = .call forms ∧
      (∀ form ∈ forms, ∀ part, Part part form →
        (∃ own, own <:+: Token.withoutComments tokens ∧ Derives own part) ∧
        ∀ own, Derives own part → Form.EndsLike own part) ∧
      ∀ source, Token.tokenize source = tokens → ∀ (sink : List Value → ω → ω) (world : ω),
        FaultsPlaced limits forms (runInto limits source sink world).1 := by
  obtain ⟨parser, -, -, rfl⟩ := Form.parse_eq_ok_iff.mp hparse
  refine ⟨Form.size_of_parse hparse, Form.endsLike_of_parse hparse, _, rfl, ?_, ?_⟩
  · intro form hmem part hpart
    obtain ⟨around, haround, hform⟩ := (Form.derivesAll_of_parse hparse).1.exists_tokens hmem
    obtain ⟨own, hown, hderives⟩ := hform.exists_tokens hpart
    exact ⟨⟨own, hown.trans haround, hderives⟩,
      fun own hown => Form.endsLike_of_lastPlace_eq hown.lastPlace_eq⟩
  · rintro source rfl sink world
    rw [runInto_outcome]
    exact faultsPlaced_of_parse hparse

/-- A function with a parameter and an empty list for its body, and then a call of an empty list,
which fails. -/
def wordless : String := "(fn [a] []) ([])"

/-- The parameter counts for the size of the program but not for its end, and the call that fails
ends nowhere. -/
theorem measures_of_parse_wordless :
    ∃ forms, Form.parse 3 (Token.tokenize wordless) = .ok (.call forms) ∧
      (Form.call forms).size = 7 ∧ (Form.call forms).lastPlace = some ⟨1, 3⟩ ∧
      (runInto ⟨1, 3⟩ wordless record #[]).1 = .error (.fault (.notCallable .list) none) ∧
      ∃ form ∈ forms, ∃ own, own <:+: Token.withoutComments (Token.tokenize wordless) ∧
        Derives own form ∧ atoms own = [] := by
  obtain ⟨root, hparse⟩ : ∃ root, Form.parse 3 (Token.tokenize wordless) = .ok root := ⟨_, rfl⟩
  have hcounts : (Token.tokenize wordless).countP Token.isFunctionWord = 1 ∧
      (Token.tokenize wordless).countP Token.startsForm = 7 := by decide +kernel
  have hend : lastEnd (Token.tokenize wordless) = some ⟨1, 3⟩ := by decide +kernel
  have houtcome : (runInto ⟨1, 3⟩ wordless record #[]).1 =
      .error (.fault (.notCallable .list) none) := rfl
  obtain ⟨hsize, hends, forms, rfl, hparts, hfaults⟩ := measures_of_parse ⟨1, 3⟩ hparse
  have hplaced := hfaults wordless rfl record #[]
  obtain ⟨before, form, later, hforms, hfails⟩ := hplaced.failed _ _ houtcome
  have hmem : form ∈ forms := hforms ▸ List.mem_append_right _ List.mem_cons_self
  obtain ⟨own, hown, hderives⟩ := (hparts form hmem form .self).1
  obtain ⟨ending, hending, -, hnone, -⟩ :=
    hplaced.placed before form later _ hforms hfails own hderives
  rw [houtcome] at hending
  cases hending
  exact ⟨forms, hparse, by omega, hends.place.trans hend, houtcome, form, hmem, own, hown, hderives,
    hnone.mp rfl⟩

end Program

end Workbench
