import BrushScript.CommandLine.Transcript
import BrushScript.Proofs.Store.Work

/-!
# Actions on a file tree

How an action ends and what tree it leaves does not depend on what was printed before (`Ends`). So
printing can be passed over, and what remains of an action is its work on files, step by step.

* `Ends action t result t'` says how an action ends on a tree, for each of its steps: what it prints
  leaves the tree alone (`ends_say`, `ends_remark`, `ends_warn`), and work on files ends as the work
  does (`ends_onFiles`, `ends_onFiles_error`);
* `Ensures action t post` is for actions whose ending is not known: however they end, the result and
  the tree are as `post` says;
* `Ends.bind`, `Ends.bind_error` and `Ensures.bind` put the steps of an action together.

A program shows a result of its action as its ending, with what was printed on the way
(`Ends.outcome`).
-/

namespace BrushScript.CommandLine.Action

variable {α β : Type} {t t' t'' : FileTree}

/-- Whatever was printed before, an action ends in a result and leaves a tree. -/
def Ends (action : Action (StateM FileTree) α) (t : FileTree) (result : Except Refusal α)
    (t' : FileTree) : Prop :=
  ∀ before, ∃ after, (action.run.run before).run t = ((result, after), t')

theorem ends_pure (a : α) (t : FileTree) : Ends (pure a) t (.ok a) t := fun before => ⟨before, rfl⟩

theorem ends_throw (why : Refusal) (t : FileTree) :
    Ends (throw why : Action _ α) t (.error why) t :=
  fun before => ⟨before, rfl⟩

theorem ends_say (line : String) (t : FileTree) : Ends (say line) t (.ok ()) t := fun _ => ⟨_, rfl⟩

theorem ends_remark (text : String) (t : FileTree) : Ends (remark text) t (.ok ()) t :=
  fun _ => ⟨_, rfl⟩

theorem ends_lift (request : StateM FileTree α) (t : FileTree) :
    Ends (liftM request) t (.ok (request.run t).1) (request.run t).2 :=
  fun before => ⟨before, rfl⟩

variable {x : Action (StateM FileTree) α} {f : α → Action (StateM FileTree) β}

theorem run_bind (before : Transcript) (t : FileTree) : ((x >>= f).run.run before).run t =
    (fun r : (Except Refusal α × Transcript) × FileTree =>
      ((ExceptT.bindCont f r.1.1).run r.1.2).run r.2) ((x.run.run before).run t) := rfl

theorem Ends.bind {a : α} {result : Except Refusal β} (first : Ends x t (.ok a) t')
    (second : Ends (f a) t' result t'') : Ends (x >>= f) t result t'' := by
  intro before
  obtain ⟨middle, first⟩ := first before
  obtain ⟨after, second⟩ := second middle
  refine ⟨after, ?_⟩
  rw [run_bind, first]
  exact second

theorem ends_warn (line : String) (t : FileTree) : Ends (warn line) t (.ok ()) t :=
  fun _ => ⟨_, rfl⟩

theorem ends_forM {print : String → Action (StateM FileTree) Unit}
    (each : ∀ line, Ends (print line) t (.ok ()) t) (lines : List String) :
    Ends (lines.forM print) t (.ok ()) t := by
  induction lines with
  | nil => exact ends_pure () t
  | cons line lines ih => exact (each line).bind ih

theorem ends_forM_say (lines : List String) (t : FileTree) :
    Ends (lines.forM say) t (.ok ()) t := ends_forM (fun line => ends_say line t) lines

theorem Ends.bind_error {why : Refusal} (first : Ends x t (.error why) t') :
    Ends (x >>= f) t (.error why) t' := by
  intro before
  obtain ⟨after, first⟩ := first before
  refine ⟨after, ?_⟩
  rw [run_bind, first]
  rfl

theorem ends_onFiles {work : Work α} {a : α} (refuse : StoreError → Refusal)
    (done : work.run t = (.ok a, t')) : Ends (onFiles refuse work) t (.ok a) t' := by
  have lifted := ends_lift work.run t
  change Ends _ t (.ok (work.run t).1) (work.run t).2 at lifted
  rw [done] at lifted
  exact lifted.bind (ends_pure a t')

theorem ends_onFiles_error {work : Work α} {e : StoreError} (refuse : StoreError → Refusal)
    (done : work.run t = (.error e, t')) : Ends (onFiles refuse work) t (.error (refuse e)) t' := by
  have lifted := ends_lift work.run t
  change Ends _ t (.ok (work.run t).1) (work.run t).2 at lifted
  rw [done] at lifted
  exact lifted.bind (ends_throw _ t')

/-! ## What an action ensures

A step that may fail has two ways to go on. What holds of both of them is carried along as a
condition on the result and the tree, and an action that fails in the middle has to meet the last
condition there and then.
-/

/-- However an action ends, its result and the tree that it leaves are as they should be. -/
def Ensures (action : Action (StateM FileTree) α) (t : FileTree)
    (post : Except Refusal α → FileTree → Prop) : Prop :=
  ∃ result t', Ends action t result t' ∧ post result t'

theorem Ends.ensures {action : Action (StateM FileTree) α} {result : Except Refusal α}
    {post : Except Refusal α → FileTree → Prop} (ends : Ends action t result t')
    (holds : post result t') : Ensures action t post := ⟨result, t', ends, holds⟩

theorem Ensures.bind {middle : Except Refusal α → FileTree → Prop}
    {post : Except Refusal β → FileTree → Prop} (first : Ensures x t middle)
    (refused : ∀ why t', middle (.error why) t' → post (.error why) t')
    (next : ∀ a t', middle (.ok a) t' → Ensures (f a) t' post) : Ensures (x >>= f) t post := by
  obtain ⟨result, t', ends, holds⟩ := first
  cases result with
  | error why => exact ends.bind_error.ensures (refused why t' holds)
  | ok a =>
    obtain ⟨result, t'', ends', holds'⟩ := next a t' holds
    -- the steps that follow begin where the first one ended
    exact (ends.bind ends').ensures holds'

/-- Work on files leaves its own tree, and what it gives is what the action gives. -/
theorem ensures_onFiles (refuse : StoreError → Refusal) (work : Work α) (t : FileTree) :
    Ensures (onFiles refuse work) t fun result t' =>
      t' = (work.run t).2 ∧ ∀ a, result = .ok a → (work.run t).1 = .ok a := by
  cases done : work.run t with
  | mk result t' =>
    cases result with
    | ok a =>
      refine (ends_onFiles refuse done).ensures ⟨rfl, ?_⟩
      rintro _ ⟨⟩
      rfl
    | error e => exact (ends_onFiles_error refuse done).ensures ⟨rfl, nofun⟩

/-! ## Endings

A refusal is shown as a failure, whatever it is about.
-/

/-- The ending that a program shows for the result of its action. -/
def shown : Except Refusal Ending → Ending
  | .ok ending => ending
  | .error _ => .failure

theorem Ends.outcome {action : Action (StateM FileTree) Ending} {result : Except Refusal Ending}
    (ends : Ends action t result t') : ∃ transcript,
      (action.outcome : StateM FileTree Outcome).run t = (⟨shown result, transcript⟩, t') := by
  obtain ⟨after, ended⟩ := ends {}
  rw [Action.outcome, StateT.run_bind, ended]
  cases result with
  | ok ending => exact ⟨after, rfl⟩
  | error why => exact ⟨_, rfl⟩

end BrushScript.CommandLine.Action
