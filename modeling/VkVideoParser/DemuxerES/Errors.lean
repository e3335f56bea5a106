import VkVideoParser.DemuxerES.EndOfStream

/-! An error stays when nothing is stored over it, and a demuxer that failed in time is not created. -/

namespace VkVideoParser.DemuxerES

open Transitions

variable {objects : List GstMiniObject} {s t u : System} {l : Label}

def Caller.creating : Caller → Prop
  | .starting | .waiting | .testing | .created _ => True
  | _ => False

-- a call that found no error when it began
def Caller.begun : Caller → Prop
  | .reading | .lookingAhead _ | .settling _ => True
  | _ => False

/-- No end of the stream and no READY is stored over an ERROR, and none comes between the last look
of `gst_demuxer_es_new` at the state and its return. -/
structure KeepsError (s : System) (l : Label) : Prop where
  eos : s.demuxer.state = .error → s.signalsEos l = false
  ready : s.demuxer.state = .error → l ≠ .storeReady
  creation : s.caller = .created true → l ≠ .busError

/-- After `s`, with an error, the state stays ERROR, only a call that was running returns anything
else, and the demuxer is not created any more. -/
structure Absorbed (s t : System) : Prop where
  state : t.demuxer.state = .error
  results : (∃ later, t.results = later ++ s.results ∧ ∀ r ∈ later, r = .error) ∨
    (s.caller.begun ∧ ∃ later r, t.results = later ++ r :: s.results ∧ ∀ r ∈ later, r = .error)
  creation : s.caller.creating → t.caller.creating ∨ t.caller = .null

/-- An error that was stored is there. -/
structure Failing (objects : List GstMiniObject) (s : System) : Prop where
  reading : Reading objects s
  state : s.failed → s.demuxer.state = .error
  creation : s.failed → s.caller ≠ .created true

lemma failing_start (objects : List GstMiniObject) : Failing objects (start objects) :=
  ⟨reading_start objects, (by rintro ⟨⟩), (by rintro ⟨⟩)⟩

/-- Where a step takes the thread of the caller. -/
inductive Walks (s : System) (l : Label) (t : System) : Prop
  | stays (ht : t.caller = s.caller)
  | creates (hs : s.caller.creating) (ht : t.caller.creating) (hl : l ≠ .busError)
    (he : t.caller = .created true → s.demuxer.state ≠ .error)
  | refuses (ht : t.caller = .null)
  | leaves (hs : s.caller = .created true) (ht : t.caller = .outside)
  | calls (hs : s.caller = .outside) (ht : t.caller = .called)
  | begins (hs : s.caller = .called) (he : s.demuxer.state ≠ .error) (ht : t.caller = .reading)
  | reads (hs : s.caller.begun) (ht : t.caller.begun)
  | returns (hs : s.caller = .called ∨ s.caller.begun) (ht : t.caller = .outside)

lemma read_begun (hc : s.caller = .reading) : s.read.caller.begun := by
  unfold System.read
  split
  · trivial
  · split
    · trivial
    · show s.caller.begun
      rw [hc]
      trivial
    · trivial

lemma lookAhead_begun (p : Option GstDemuxerESPacket) : (s.lookAhead p).caller.begun := by
  unfold System.lookAhead
  split
  · trivial
  · show Caller.begun (if _ then _ else _)
    split <;> trivial
  · trivial

lemma walks (ht : s.step l = some t) : Walks s l t := by
  unfold System.step at ht
  split at ht
  · cases ht
  cases l with
  | proceed =>
    simp only [System.proceed] at ht
    cases hc : s.caller with
    | starting | null | outside =>
      rw [hc] at ht
      cases ht
    | waiting =>
      simp only [hc] at ht
      split at ht
      · cases ht
      · cases ht
        exact .creates (by rw [hc]; trivial) trivial (by simp) (by rintro ⟨⟩)
    | testing =>
      simp only [hc, Option.some.injEq] at ht
      rw [← ht]
      refine .creates (by rw [hc]; trivial) trivial (by simp) fun h => ?_
      intro he
      simp [System.goTo, he] at h
    | created ready =>
      simp only [hc, Option.some.injEq] at ht
      rw [← ht]
      cases ready with
      | true => exact .leaves hc rfl
      | false => exact .refuses rfl
    | called =>
      simp only [hc, Option.some.injEq] at ht
      rw [← ht]
      split
      · exact .returns (.inl hc) rfl
      · rename_i he
        exact .begins hc he rfl
    | reading =>
      simp only [hc, Option.some.injEq] at ht
      rw [← ht]
      exact .reads (by rw [hc]; trivial) (read_begun hc)
    | lookingAhead p =>
      simp only [hc, Option.some.injEq] at ht
      rw [← ht]
      exact .reads (by rw [hc]; trivial) (lookAhead_begun p)
    | settling p =>
      simp only [hc, Option.some.injEq] at ht
      rw [← ht]
      exact .returns (.inr (by rw [hc]; trivial)) (by cases p <;> rfl)
  | setState ok =>
    simp only at ht
    split at ht
    · rename_i hc
      cases ht
      cases ok with
      | true => exact .creates (by rw [hc]; trivial) trivial (by simp) (by rintro ⟨⟩)
      | false => exact .refuses rfl
    · cases ht
  | call =>
    simp only at ht
    split at ht
    · rename_i hc
      cases ht
      exact .calls hc rfl
    · cases ht
  | storeReady =>
    simp only at ht
    split at ht
    · cases ht
      exact .stays rfl
    · cases ht
  | busError | busEos | padAdded | noMorePads =>
    cases ht
    exact .stays rfl

lemma Failing.step (h : Failing objects s)
    (hgood : KeepsError s l) (ht : s.step l = some t) : Failing objects t := by
  have hst := h.reading.stores ht
  refine ⟨h.reading.step ht, fun hf => ?_, fun hf hc => ?_⟩
  · cases hst with
    | nothing hs _ hf' => exact hs.trans (h.state (hf'.symm.trans hf))
    | eos hl _ _ hf' => exact absurd hl (by rw [hgood.eos (h.state (hf'.symm.trans hf))]; simp)
    | ready _ _ hf' => exact absurd rfl (hgood.ready (h.state (hf'.symm.trans hf)))
    | error hs => exact hs
  · have hsame : s.failed ∨ (l = .busError ∧ t.caller = s.caller) := by
      cases hst with
      | nothing _ _ hf' | eos _ _ _ hf' | ready _ _ hf' => exact .inl (hf'.symm.trans hf)
      | error _ _ _ hc => exact .inr ⟨rfl, hc⟩
    rcases hsame with hsame | ⟨rfl, hsame⟩
    · cases walks ht with
      | stays ht => exact h.creation hsame (ht.symm.trans hc)
      | creates _ _ _ he => exact he hc (h.state hsame)
      | refuses ht | leaves _ ht | calls _ ht | begins _ _ ht | returns _ ht => cases ht.symm.trans hc
      | reads _ ht =>
        rw [hc] at ht
        exact ht
    · exact hgood.creation (hsame.symm.trans hc) rfl

/-- What the caller got since the error `s`. -/
inductive Since (s t : System) : Prop
  | running (hs : s.caller.begun) (ht : t.caller.begun) (h : t.results = s.results)
  | outside (later : List GstDemuxerESResult) (ht : ¬t.caller.begun) (h : t.results = later ++ s.results)
    (he : ∀ r ∈ later, r = .error)
  | returned (hs : s.caller.begun) (later : List GstDemuxerESResult) (r : GstDemuxerESResult)
    (ht : ¬t.caller.begun) (h : t.results = later ++ r :: s.results) (he : ∀ r ∈ later, r = .error)

lemma since_refl (s : System) : Since s s := by
  by_cases hs : s.caller.begun
  · exact .running hs hs rfl
  · exact .outside [] hs rfl (by simp)

-- no call begins while there is an error
lemma begun_of_error (ht : t.step l = some u) (he : t.demuxer.state = .error) (hu : u.caller.begun) :
    t.caller.begun := by
  cases walks ht with
  | stays h =>
    rw [h] at hu
    exact hu
  | creates _ h =>
    cases hc : u.caller <;> rw [hc] at h hu
    all_goals first | exact h.elim | exact hu.elim
  | refuses h | leaves _ h | calls _ h | returns _ h =>
    rw [h] at hu
    exact hu.elim
  | begins _ h => exact absurd he h
  | reads h => exact h

lemma Since.step (h : Since s t) (he : t.demuxer.state = .error) (ht : t.step l = some u) : Since s u := by
  have hmore : ¬t.caller.begun → ¬u.caller.begun := fun hb hu => hb (begun_of_error ht he hu)
  have herr : ∀ later : List GstDemuxerESResult, (∀ r ∈ later, r = .error) → ∀ r ∈ .error :: later, r = .error := by
    intro later hl r hr
    rcases List.mem_cons.mp hr with hr | hr
    · exact hr
    · exact hl r hr
  cases h with
  | running hs hb h =>
    cases answers ht with
    | nothing hres =>
      by_cases hu : u.caller.begun
      · exact .running hs hu (hres.trans h)
      · exact .outside [] hu (hres.trans h) (by simp)
    | failed _ hc =>
      rw [hc] at hb
      exact hb.elim
    | settled p _ _ hu =>
      subst hu
      cases p with
      | none => exact .returned hs [] .noPacket id (by simp [System.settle, System.finish, h]) (by simp)
      | some p => exact .returned hs [] _ id (by simp [System.settle, System.finish, h]; rfl) (by simp)
  | outside later hb h hl =>
    cases answers ht with
    | nothing hres => exact .outside later (hmore hb) (hres.trans h) hl
    | failed _ _ _ hu =>
      subst hu
      exact .outside (.error :: later) (hmore hb) (by simp [System.finish, h]) (herr later hl)
    | settled p _ hc =>
      rw [hc] at hb
      exact absurd trivial hb
  | returned hs later r hb h hl =>
    cases answers ht with
    | nothing hres => exact .returned hs later r (hmore hb) (hres.trans h) hl
    | failed _ _ _ hu =>
      subst hu
      exact .returned hs (.error :: later) r (hmore hb) (by simp [System.finish, h]) (herr later hl)
    | settled p _ hc =>
      rw [hc] at hb
      exact absurd trivial hb

lemma creating_of_error (ht : t.step l = some u) (hc : t.caller ≠ .created true)
    (h : t.caller.creating ∨ t.caller = .null) : u.caller.creating ∨ u.caller = .null := by
  rcases h with h | h
  · cases walks ht with
    | stays hu => exact .inl (by rw [hu]; exact h)
    | creates _ hu => exact .inl hu
    | refuses hu => exact .inr hu
    | leaves hs => exact absurd hs hc
    | calls hs | begins hs =>
      rw [hs] at h
      exact h.elim
    | reads hs =>
      cases hp : t.caller <;> rw [hp] at h hs
      all_goals first | exact h.elim | exact hs.elim
    | returns hs =>
      rcases hs with hs | hs
      · rw [hs] at h
        exact h.elim
      · cases hp : t.caller <;> rw [hp] at h hs
        all_goals first | exact h.elim | exact hs.elim
  · unfold System.step at ht
    rw [if_pos h] at ht
    cases ht

/-- When nothing is stored over an error, it stays, every later call returns it, and
`gst_demuxer_es_new` does not return a demuxer after it. -/
theorem error_absorbing (objects : List GstMiniObject) (labels labels' : List Label) (s t : System)
    (hgood : Along System.step KeepsError (labels ++ labels') (start objects))
    (hrun : run System.step labels (start objects) = some s) (hrun' : run System.step labels' s = some t)
    (hfailed : s.failed) : Absorbed s t := by
  have hs : Failing objects s :=
    hgood.left.keeps hrun (fun _ _ _ hg ht h => h.step hg ht) (failing_start objects)
  have ht : (Failing objects t ∧ t.failed) ∧ Since s t ∧
      (s.caller.creating → t.caller.creating ∨ t.caller = .null) := by
    refine (hgood.append hrun).keeps (I := fun t => (Failing objects t ∧ t.failed) ∧ Since s t ∧
      (s.caller.creating → t.caller.creating ∨ t.caller = .null)) hrun' ?_ ⟨⟨hs, hfailed⟩, since_refl s, .inl⟩
    rintro t l u hg ht ⟨⟨h, hf⟩, hsince, hcre⟩
    have he := h.state hf
    refine ⟨⟨h.step hg ht, ?_⟩, hsince.step he ht, fun hc => creating_of_error ht (h.creation hf) (hcre hc)⟩
    cases h.reading.stores ht with
    | nothing _ _ hf' | eos _ _ _ hf' | ready _ _ hf' => exact hf'.trans hf
    | error _ _ hf' => exact hf'
  refine ⟨ht.1.1.state ht.1.2, ?_, ht.2.2⟩
  cases ht.2.1 with
  | running _ _ h => exact .inl ⟨[], h, by simp⟩
  | outside later _ h hl => exact .inl ⟨later, h, hl⟩
  | returned hs later r _ h hl => exact .inr ⟨hs, later, r, h, hl⟩

instance : Decidable (KeepsError s l) :=
  decidable_of_iff ((s.demuxer.state = .error → s.signalsEos l = false) ∧
      (s.demuxer.state = .error → l ≠ .storeReady) ∧ (s.caller = .created true → l ≠ .busError))
    ⟨fun h => ⟨h.1, h.2.1, h.2.2⟩, fun h => ⟨h.eos, h.ready, h.creation⟩⟩

def failedEnd : System := (run System.step (createdWithTwo ++ [.busError]) (start oneGroup)).getD (start [])

def readAfterError : System := (run System.step (readIn 1) failedEnd).getD (start [])

theorem error_absorbing_read : Absorbed failedEnd readAfterError :=
  error_absorbing oneGroup (createdWithTwo ++ [.busError]) (readIn 1) failedEnd readAfterError (by decide +kernel)
    (by decide +kernel) (by decide +kernel) (by decide +kernel)

-- an EOS message after the error, and a packet is read
def readAfterEos : System := (run System.step (.busEos :: readIn 5) failedEnd).getD (start [])

theorem error_forgotten : run System.step (createdWithTwo ++ [.busError]) (start oneGroup) = some failedEnd ∧
    failedEnd.failed ∧ run System.step (.busEos :: readIn 5) failedEnd = some readAfterEos ∧
    ¬Absorbed failedEnd readAfterEos := by
  refine ⟨by decide +kernel, by decide +kernel, by decide +kernel, fun h => ?_⟩
  exact absurd h.state (by decide +kernel)

end VkVideoParser.DemuxerES
