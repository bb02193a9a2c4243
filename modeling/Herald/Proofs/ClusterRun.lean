import Herald.Cluster.State

set_option autoImplicit false

/-!
# Running steps on a cluster

`ClusterM` is a state monad over the whole cluster.  This module takes its
small operations apart once: how an array of nodes or channels reads after
an update, what `modifyNode` changes, and that waking a task touches nothing
but the run queue.  Proofs about the services cite these equations and
never unfold the operations themselves.
-/

namespace Herald.Cluster

@[simp]
theorem id_bind {α β : Type} (x : Id α) (f : α → Id β) : x >>= f = f x := rfl

@[simp]
theorem id_pure {α : Type} (a : α) : (pure a : Id α) = a := rfl

theorem run_get_bind {α : Type} (k : World → ClusterM α) (w : World) :
    (get >>= k).run w = (k w).run w := rfl

section ArrayReads

variable {α : Type} (xs : Array α) (d : α)

theorem getD_modify (i j : Nat) (f : α → α) :
    (xs.modify i f).getD j d = if i = j ∧ i < xs.size then f (xs.getD i d) else xs.getD j d := by
  simp only [Array.getD_eq_getD_getElem?, Array.getElem?_modify]
  by_cases same : i = j
  · subst same
    by_cases inside : i < xs.size
    · simp [inside]
    · simp [inside]
  · simp [same]

theorem getD_set! (i j : Nat) (v : α) :
    (xs.set! i v).getD j d = if i = j ∧ i < xs.size then v else xs.getD j d := by
  simp only [Array.getD_eq_getD_getElem?, Array.set!_eq_setIfInBounds,
    Array.getElem?_setIfInBounds]
  by_cases same : i = j
  · subst same
    by_cases inside : i < xs.size
    · simp [inside]
    · simp [inside]
  · simp [same]

theorem getD_push (j : Nat) (v : α) :
    (xs.push v).getD j d = if j = xs.size then v else xs.getD j d := by
  simp only [Array.getD_eq_getD_getElem?, Array.getElem?_push]
  split <;> simp

@[simp]
theorem size_set! (i : Nat) (v : α) : (xs.set! i v).size = xs.size := by
  simp [Array.set!_eq_setIfInBounds]

end ArrayReads

namespace World

@[simp]
theorem node_modify (w : World) (n m : Nat) (f : Node → Node) :
    { w with nodes := w.nodes.modify n f }.node m =
      if n = m ∧ n < w.nodes.size then f (w.node n) else w.node m :=
  getD_modify w.nodes default n m f

end World

/-! ## Actions that only queue tasks -/

/-- An action that changes nothing of the cluster but its run queue. -/
def QueueOnly {α : Type} (x : ClusterM α) : Prop :=
  ∀ w, (x.run w).2 = { w with runQueue := (x.run w).2.runQueue }

namespace QueueOnly

variable {α β γ : Type}

theorem of_pure (a : α) : QueueOnly (pure a : ClusterM α) := fun _ => rfl

theorem of_get : QueueOnly (get : ClusterM World) := fun _ => rfl

theorem of_bind {x : ClusterM α} {f : α → ClusterM β} (first : QueueOnly x)
    (rest : ∀ a, QueueOnly (f a)) : QueueOnly (x >>= f) := by
  intro w
  have second := rest (x.run w).1 (x.run w).2
  show ((f (x.run w).1).run (x.run w).2).2 =
    { w with runQueue := ((f (x.run w).1).run (x.run w).2).2.runQueue }
  generalize ((f (x.run w).1).run (x.run w).2).2 = after at second ⊢
  rw [second, first w]

theorem of_forIn (l : List γ) (init : β) (f : γ → β → ClusterM (ForInStep β))
    (body : ∀ a b, QueueOnly (f a b)) : QueueOnly (forIn l init f) := by
  induction l generalizing init with
  | nil => exact of_pure init
  | cons a rest inductionHypothesis =>
      rw [List.forIn_cons]
      refine of_bind (body a init) fun step => ?_
      cases step with
      | done b => exact of_pure b
      | yield b => exact inductionHypothesis b

theorem of_forIn'_list (l : List γ) (init : β) (f : (a : γ) → a ∈ l → β → ClusterM (ForInStep β))
    (body : ∀ a listed b, QueueOnly (f a listed b)) : QueueOnly (forIn' l init f) := by
  induction l generalizing init with
  | nil => exact of_pure init
  | cons a rest inductionHypothesis =>
      rw [List.forIn'_cons]
      refine of_bind (body a _ init) fun step => ?_
      cases step with
      | done b => exact of_pure b
      | yield b =>
          apply inductionHypothesis
          intro a' listed b'
          exact body a' _ b'

theorem of_forIn'_range (r : Std.Legacy.Range) (init : β)
    (f : (a : Nat) → a ∈ r → β → ClusterM (ForInStep β))
    (body : ∀ a inside b, QueueOnly (f a inside b)) : QueueOnly (forIn' r init f) := by
  rw [Std.Legacy.Range.forIn'_eq_forIn'_range']
  exact of_forIn'_list _ init _ fun a _ b => body a _ b

end QueueOnly

theorem wake_run (t : TaskRef) (w : World) :
    (wake t).run w = ((), { w with runQueue := ((wake t).run w).2.runQueue }) := by
  unfold wake
  rw [StateT.run_modify]
  split <;> rfl

theorem wakeWriterSelecting_run (s : Nat) (w : World) :
    (wakeWriterSelecting s).run w =
      ((), { w with runQueue := ((wakeWriterSelecting s).run w).2.runQueue }) := by
  unfold wakeWriterSelecting
  simp only [StateT.run_bind, StateT.run_get, id_bind]
  split
  · exact wake_run _ w
  · rfl

theorem QueueOnly.of_wake (t : TaskRef) : QueueOnly (wake t) := fun w =>
  congrArg Prod.snd (wake_run t w)

theorem QueueOnly.of_wakeStreamReaders (src : Stream) : QueueOnly (wakeStreamReaders src) := by
  unfold wakeStreamReaders
  refine of_bind of_get fun w => of_bind (of_forIn'_range _ _ _ fun c _ _ => ?_) fun _ => of_pure _
  dsimp only
  split
  · split
    · exact of_bind (of_wake _) fun _ => of_pure _
    · exact of_pure _
  · exact of_pure _

end Herald.Cluster
