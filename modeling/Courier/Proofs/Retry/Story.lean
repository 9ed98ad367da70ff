import Courier.Proofs.Retry.Course

/-! What the records of one message tell: how often it was handled, which answers it got, and what
the broker was asked for. -/
namespace Courier

def Deed.tag? : Deed → Option Nat
  | .arrived _ _ d | .returned _ _ d => some d.tag
  | _ => none

def Deed.answer? : Deed → Option Answer
  | .concluded _ _ _ _ answer _ => some answer
  | _ => none

def Deed.isRetry : Deed → Bool
  | .concluded _ _ _ _ _ r => r = .requeued
  | _ => false

/-- The tags under which messages were handed over. -/
def tagsOf (g : List Record) : List Nat := g.filterMap (·.deed.tag?)

/-- The answers that were acted on. -/
def answersOf (g : List Record) : List Answer := g.filterMap (·.deed.answer?)

def requestsOf (g : List Record) : List (Request × Bool) :=
  g.flatMap fun r => Entry.requests r.entries

/-- How often messages were handled. -/
def attempts (g : List Record) : Nat := (g.flatMap fun r => Entry.handlings r.entries).length

/-- How often messages were to be sent back. -/
def sentBack (g : List Record) : Nat := g.countP (·.deed.isRetry)

/-- A message was given back with success. -/
def gaveBackUnder (tag : Nat) : Request × Bool := (.nack tag false true, true)

/-- A message was acknowledged with success. -/
def ackedUnder (tag : Nat) : Request × Bool := (.ack tag false, true)

section
variable (g : List Record) (r : Record)

@[simp] theorem tagsOf_append : tagsOf (g ++ [r]) = tagsOf g ++ r.deed.tag?.toList := by
  unfold tagsOf
  rw [List.filterMap_append]
  cases h : r.deed.tag? <;> simp [h]

@[simp] theorem answersOf_append : answersOf (g ++ [r]) = answersOf g ++ r.deed.answer?.toList := by
  unfold answersOf
  rw [List.filterMap_append]
  cases h : r.deed.answer? <;> simp [h]

@[simp] theorem requestsOf_append :
    requestsOf (g ++ [r]) = requestsOf g ++ Entry.requests r.entries := by
  simp [requestsOf]

@[simp] theorem attempts_append :
    attempts (g ++ [r]) = attempts g + (Entry.handlings r.entries).length := by
  simp [attempts]

@[simp] theorem sentBack_append :
    sentBack (g ++ [r]) = sentBack g + if r.deed.isRetry then 1 else 0 := by
  simp [sentBack, List.countP_cons]

end

attribute [simp] Deed.tag? Deed.answer? Deed.isRetry

/-- The records of a message that is not resolved: it was given back under the tags `past`, was
handed over under those of `now`, too, and got the answers `failed`, which were failures. -/
structure Rounds (g : List Record) (past now : List Nat) (failed : List Answer) : Prop where
  tags : tagsOf g = past ++ now
  requests : requestsOf g = past.map gaveBackUnder
  answers : answersOf g = failed
  fails : ∀ a ∈ failed, a.fails = true
  sentBack : sentBack g = failed.length
  attempts : attempts g = past.length + now.length
  moves : g.length = past.length + now.length + failed.length + past.length

/-- The records of a message that is resolved: it was given back under the tags `past` and
acknowledged under `tag`, after failures that ended with the answer `last`. -/
structure Finished (g : List Record) (past : List Nat) (tag : Nat) (failed : List Answer)
    (last : Answer) : Prop where
  tags : tagsOf g = past ++ [tag]
  requests : requestsOf g = past.map gaveBackUnder ++ [ackedUnder tag]
  answers : answersOf g = failed ++ [last]
  fails : ∀ a ∈ failed, a.fails = true
  length : failed.length = past.length
  sentBack : sentBack g = past.length
  attempts : attempts g = past.length + 1
  moves : g.length = 3 * past.length + 2

/-- What the records of a message tell when it is at a place. -/
def Place.Told (g : List Record) : Place → Prop
  | .nowhere => Rounds g [] [] []
  | .handling d => ∃ past failed, Rounds g past [d.tag] failed ∧ failed.length = past.length
  | .delayed d => ∃ past failed, Rounds g past [d.tag] failed ∧ failed.length = past.length + 1
  | .back => ∃ past failed, Rounds g past [] failed ∧ failed.length = past.length
  | .resolved => ∃ past tag failed last, Finished g past tag failed last

section
variable {sub : Subscription} {stream : Nat} {id : String} {g : List Record} {place place' : Place}

theorem Rounds.handOver {past : List Nat} {failed : List Answer} (h : Rounds g past [] failed)
    {r : Record} {tag : Nat} {payload : Payload} (ht : r.deed.tag? = some tag)
    (ha : r.deed.answer? = none) (hs : r.deed.isRetry = false) (hr : Entry.requests r.entries = [])
    (hh : Entry.handlings r.entries = [payload]) : Rounds (g ++ [r]) past [tag] failed := by
  obtain ⟨htags, hreq, hans, hfails, hsent, hatt, hmoves⟩ := h
  refine ⟨?_, ?_, ?_, hfails, ?_, ?_, ?_⟩
  · rw [tagsOf_append, htags, ht]
    simp
  · rw [requestsOf_append, hreq, hr, List.append_nil]
  · rw [answersOf_append, hans, ha]
    simp
  · rw [sentBack_append, hsent, hs]
    simp
  · rw [attempts_append, hatt, hh]
    simp
  · rw [List.length_append, hmoves]
    simp
    omega

theorem Place.Told.leg (h : place.Told g) {r : Record} (leg : Leg sub stream id place r place') :
    place'.Told (g ++ [r]) := by
  cases leg with
  | arrive hr hh => exact ⟨[], [], Rounds.handOver h rfl rfl rfl hr hh, rfl⟩
  | again hr hh =>
    obtain ⟨past, failed, h, hl⟩ := h
    exact ⟨past, failed, h.handOver rfl rfl rfl hr hh, hl⟩
  | @sendBack d answer entries hf hr hh =>
    obtain ⟨past, failed, ⟨htags, hreq, hans, hfails, hsent, hatt, hmoves⟩, hl⟩ := h
    refine ⟨past, failed ++ [answer], ⟨?_, ?_, ?_, ?_, ?_, ?_, ?_⟩, by simp [hl]⟩
    · simp [htags]
    · simp [hreq, hr]
    · simp [hans]
    · intro a ha
      rcases List.mem_append.mp ha with ha | ha
      · exact hfails a ha
      · rw [List.mem_singleton.mp ha]
        exact hf
    · simp [hsent]
    · simp [hatt, hh]
    · simp [hmoves]
      omega
  | @giveBack d entries hr hh =>
    obtain ⟨past, failed, ⟨htags, hreq, hans, hfails, hsent, hatt, hmoves⟩, hl⟩ := h
    refine ⟨past ++ [d.tag], failed, ⟨?_, ?_, ?_, hfails, ?_, ?_, ?_⟩, by simp [hl]⟩
    · simp [htags]
    · simp [hreq, hr, gaveBackUnder]
    · simp [hans]
    · simp [hsent]
    · simp [hatt, hh]
    · simp [hmoves]
      omega
  | @resolve d answer r entries hn _ hr hh =>
    obtain ⟨past, failed, ⟨htags, hreq, hans, hfails, hsent, hatt, hmoves⟩, hl⟩ := h
    refine ⟨past, d.tag, failed, answer, ⟨?_, ?_, ?_, hfails, hl, ?_, ?_, ?_⟩⟩
    · simp [htags]
    · simp [hreq, hr, ackedUnder]
    · simp [hans]
    · simp [hsent, hl, hn]
    · simp [hatt, hh]
    · simp [hmoves, hl]
      omega

theorem Course.told (course : Course sub stream id g place) : place.Told g := by
  induction course with
  | start => exact ⟨rfl, rfl, rfl, fun _ h => absurd h List.not_mem_nil, rfl, rfl, rfl⟩
  | next _ leg ih => exact ih.leg leg

/-- An unresolved message has had one attempt more at most than failures. -/
theorem Place.Told.rounds (h : place.Told g) (hn : place ≠ .resolved) :
    ∃ past now failed, Rounds g past now failed ∧ attempts g ≤ failed.length + 1 ∧
      g.length ≤ 3 * attempts g := by
  cases place with
  | nowhere => exact ⟨_, _, _, h, by simp [h.attempts], by simp [h.attempts, h.moves]⟩
  | handling | delayed | back =>
    obtain ⟨past, failed, rounds, hlen⟩ := h
    have hatt := rounds.attempts
    have hmoves := rounds.moves
    simp only [List.length_singleton, List.length_nil] at hatt hmoves
    exact ⟨_, _, _, rounds, by omega, by omega⟩
  | resolved => exact absurd rfl hn

theorem fails_of_getElem? {answers : ℕ → Answer} {failed : List Answer} (more : List Answer)
    (hf : ∀ a ∈ failed, a.fails = true)
    (answered : ∀ j a, (failed ++ more)[j]? = some a → a = answers j) :
    ∀ j < failed.length, (answers j).fails = true := by
  intro j hj
  have hget : (failed ++ more)[j]? = some failed[j] := by
    rw [List.getElem?_append_left hj, List.getElem?_eq_getElem hj]
  rw [← answered j _ hget]
  exact hf _ (List.getElem_mem hj)

theorem Rounds.fails_of_answered {past now : List Nat} {failed : List Answer}
    (h : Rounds g past now failed) {answers : ℕ → Answer}
    (answered : ∀ j a, (answersOf g)[j]? = some a → a = answers j) :
    ∀ j < failed.length, (answers j).fails = true := by
  rw [h.answers] at answered
  exact fails_of_getElem? [] h.fails (by simpa using answered)

section
variable {past : List Nat} {tag : Nat} {failed : List Answer} {last : Answer}
  (h : Finished g past tag failed last) {answers : ℕ → Answer}
  (answered : ∀ j a, (answersOf g)[j]? = some a → a = answers j)
include h answered

theorem Finished.fails_of_answered : ∀ j < past.length, (answers j).fails = true := by
  rw [h.answers] at answered
  rw [← h.length]
  exact fails_of_getElem? [last] h.fails answered

theorem Finished.last_of_answered : last = answers past.length := by
  rw [h.answers] at answered
  apply answered
  rw [← h.length, List.getElem?_concat_length]

end

end
end Courier
