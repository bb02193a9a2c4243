import Herald.Proofs.MeshFrames
import Herald.Proofs.ChatSend

set_option autoImplicit false

/-!
# Publishing on the backplane

A node replicates an event by wrapping it in an envelope and handing the
envelope's text to each of its transports in turn, every one exactly once
and whatever the earlier ones answered; the answer is the first failure,
labelled with its transport's name, or success when none failed
(`backplane_publish_tries_every_transport`).  A node without transports
does nothing, not even read the clock, and an envelope that does not encode
is handed to no transport.  A mesh follows the same rule over its peer
links.  Neither waits: a publish leaves the cluster's clock where it was.
-/

namespace Herald.Cluster

/-- The answers of publishing a payload on each named transport in turn,
each failure labelled with its transport's name. -/
def publishAnswers (ts : Transports) (subject : String) (p : ByteArray) :
    List String → List (Except BackplaneError Unit)
  | [] => []
  | name :: rest =>
    (ts.publish name subject p).2.result.mapError (.publish (((ts.get? name).map Transport.name).getD name)) ::
      publishAnswers (ts.publish name subject p).1 subject p rest

/-- A loop that publishes on each transport in turn and keeps the first
failure answers the first failure of the transports' answers. -/
theorem forIn_publish_answer (subject : String) (p : ByteArray)
    (f : String → Option BackplaneError → ClusterM (ForInStep (Option BackplaneError)))
    (body : ∀ name first w, ((f name first).run w).1 =
      .yield (first.or (firstFailure [(w.transports.publish name subject p).2.result.mapError
        (.publish (((w.transports.get? name).map Transport.name).getD name))])) ∧
      ((f name first).run w).2.transports = (w.transports.publish name subject p).1)
    (names : List String) (first : Option BackplaneError) (w : World) :
    ((forIn names first f).run w).1 = first.or (firstFailure (publishAnswers w.transports subject p names)) := by
  -- induction on the transports still to try, from any failure kept so far
  induction names generalizing first w with
  | nil => cases first <;> rfl
  | cons name rest inductionHypothesis =>
      obtain ⟨answered, transports⟩ := body name first w
      have step : (f name first).run w = (_, ((f name first).run w).2) := Prod.ext answered rfl
      rw [List.forIn_cons, StateT.run_bind, step, id_bind]
      dsimp only
      rw [inductionHypothesis, transports]
      cases first with
      | some e => rfl
      | none =>
          simp only [Option.none_or, publishAnswers]
          cases (w.transports.publish name subject p).2.result with
          | ok => rfl
          | error err => rfl

/-- What a publish answers: success for a node without transports, the
encoding failure for an envelope that does not encode, and otherwise the
first failure among the transports' answers. -/
theorem publishEvent_answer (n : Nat) (e : Event) (w : World) :
    ((publishEvent n e).run w).1 =
      if (w.node n).transports.isEmpty then .ok ()
      else
        match (envelopeOf (w.node n) e { w with wallTicks := w.wallTicks + 1 }.wallNow).encode with
        | .error pe => .error (.encode pe)
        | .ok text =>
          match firstFailure (publishAnswers w.transports (w.node n).backplane.subject text.toUTF8
              (w.node n).transports) with
          | some err => .error err
          | none => .ok () := by
  unfold publishEvent
  simp only [StateT.run_bind, StateT.run_get, pure_bind]
  split
  · rfl
  · simp only [StateT.run_bind, readClock_run, id_bind]
    split
    · next refused encoded =>
        simp only [envelopeOf, encoded]
        rfl
    · next text encoded =>
        simp only [envelopeOf, encoded]
        simp only [StateT.run_bind, id_bind, StateT.run_pure]
        rw [forIn_publish_answer (w.node n).backplane.subject text.toUTF8, Option.none_or]
        · rfl
        · intro name first w'
          simp only [StateT.run_bind, StateT.run_get, id_pure, id_bind]
          rw [publishPayload_run]
          dsimp only
          cases (w'.transports.publish name (w.node n).backplane.subject text.toUTF8).2.result with
          | ok => cases first <;> exact ⟨rfl, rfl⟩
          | error err => cases first <;> exact ⟨rfl, rfl⟩

/-- Replicating an event: a node without transports answers success and
changes nothing, not even its clock reading; an envelope that does not
encode is the answer once the clock was read, and no transport is tried;
otherwise the envelope's text is published under the node's subject once on
each transport in turn, whatever the earlier ones answered, the answer
being success exactly when every transport took it and otherwise the first
failure, and the cluster's clock stays where it was.  A mesh publishes the
same way over its links: one frame, offered once to each link, the first
refusal the answer. -/
theorem backplane_publish_tries_every_transport (n : Nat) (e : Event) (w : World) :
    let nd := w.node n
    let ticked := { w with wallTicks := w.wallTicks + 1 }
    let answers (text : String) := publishAnswers w.transports nd.backplane.subject text.toUTF8 nd.transports
    (nd.transports = [] → (publishEvent n e).run w = (.ok (), w)) ∧
    (nd.transports ≠ [] → ∀ pe, (envelopeOf nd e ticked.wallNow).encode = .error pe →
        (publishEvent n e).run w = (.error (.encode pe), ticked)) ∧
    (nd.transports ≠ [] → ∀ text, (envelopeOf nd e ticked.wallNow).encode = .ok text →
        ((publishEvent n e).run w).2.transports =
          publishAll w.transports nd.transports nd.backplane.subject text.toUTF8 ∧
        ((publishEvent n e).run w).2.clock = w.clock ∧
        (((publishEvent n e).run w).1 = .ok () ↔ ∀ a ∈ answers text, a = .ok ()) ∧
        ∀ err, ((publishEvent n e).run w).1 = .error err ↔
          ∃ tried rest, answers text = tried ++ .error err :: rest ∧ ∀ a ∈ tried, a = .ok ()) ∧
    ∀ (m : Mesh) (subject : String) (payload : ByteArray),
      m.publish subject payload =
        match encodeMeshFrame subject payload with
        | .error err => (m, .error err)
        | .ok frame =>
          ({ m with links := m.links.map (offeredTo frame) },
            match firstFailure (m.links.map (offerResult frame)) with
            | some e => .error e
            | none => .ok ()) := by
  dsimp only
  refine ⟨fun none => ?_, fun some pe refused => ?_, fun some text encoded => ?_, Mesh.publish_eq⟩
  · unfold publishEvent
    simp only [StateT.run_bind, StateT.run_get, pure_bind]
    rw [if_pos (List.isEmpty_iff.mpr none)]
    rfl
  · have notEmpty : (w.node n).transports.isEmpty = false := by
      simpa [List.isEmpty_iff] using some
    have answer := publishEvent_answer n e w
    have after := publishEvent_after n e w
    rw [notEmpty, if_neg Bool.false_ne_true] at answer after
    dsimp only at answer after
    rw [refused] at answer after
    exact Prod.ext answer after
  · have notEmpty : (w.node n).transports.isEmpty = false := by
      simpa [List.isEmpty_iff] using some
    have answer := publishEvent_answer n e w
    have after := publishEvent_after n e w
    rw [notEmpty, if_neg Bool.false_ne_true] at answer after
    dsimp only at answer after
    rw [encoded] at answer after
    dsimp only at answer after
    refine ⟨by rw [after], by rw [after], ?_, fun err => ?_⟩
    · rw [answer, ← firstFailure_eq_none_iff]
      cases firstFailure (publishAnswers w.transports (w.node n).backplane.subject text.toUTF8
        (w.node n).transports) <;> simp
    · rw [answer, ← firstFailure_eq_some_iff]
      cases firstFailure (publishAnswers w.transports (w.node n).backplane.subject text.toUTF8
        (w.node n).transports) <;> simp

end Herald.Cluster
