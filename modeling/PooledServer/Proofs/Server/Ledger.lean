import PooledServer.Proofs.Server.Errands

/-!
# The account of requests

    The requests that the event server keeps are those of the items whose closures are still there, in
    the same order, and every item that was made is met once: with its closure, or among those whose
    sockets have gone back (`Service.Accounted`).

    A move changes the account in one of five ways (`Service.Turn`): not at all, a new item is queued, a
    new item meets its fate at once, an item begins to run, or a closure is destroyed. -/

namespace PooledServer.Server

open Net
open Events (Request Stage)
open Work (TaskId)

/-! ## What has been seen -/

namespace ServiceNote

/-- The item that was made, if that is what is seen. -/
def made? : ServiceNote → Option TaskId
  | made id _ => some id
  | _ => none

/-- The item that called the handler. -/
def called? : ServiceNote → Option TaskId
  | called id .. => some id
  | _ => none

/-- The item whose socket has gone back. -/
def handedBack? : ServiceNote → Option TaskId
  | handedBack id .. => some id
  | _ => none

end ServiceNote

/-- The items that were made. -/
def made (seen : List ServiceNote) : List TaskId := seen.filterMap ServiceNote.made?

/-- The items that called the handler. -/
def called (seen : List ServiceNote) : List TaskId := seen.filterMap ServiceNote.called?

/-- The items whose sockets have gone back. -/
def handedBack (seen : List ServiceNote) : List TaskId := seen.filterMap ServiceNote.handedBack?

section Seen

variable {seen notes : List ServiceNote} {id : TaskId} {r : Request} {verdict : Verdict} {left : Bool}
  {fate : Fate} {t : ThreadId} {socket : Socket}

theorem made_append : made (seen ++ notes) = made seen ++ made notes := List.filterMap_append

theorem called_append : called (seen ++ notes) = called seen ++ called notes := List.filterMap_append

theorem handedBack_append : handedBack (seen ++ notes) = handedBack seen ++ handedBack notes :=
  List.filterMap_append

theorem filterMap_log {β : Type*} {f : ServiceNote → Option β} (hf : ∀ record, f (.log record) = none)
    (records : List Log.Record) : (records.map ServiceNote.log).filterMap f = [] := by
  rw [List.filterMap_map]
  exact List.filterMap_eq_nil_iff.mpr fun record _ => hf record

/-- What is seen when the handler is called. -/
theorem seen_call (records : List Log.Record) :
    made (.called id verdict left :: records.map .log) = [] ∧
      called (.called id verdict left :: records.map .log) = [id] ∧
      handedBack (.called id verdict left :: records.map .log) = [] := by
  have hmade := filterMap_log (f := ServiceNote.made?) (fun _ => rfl) records
  have hcalled := filterMap_log (f := ServiceNote.called?) (fun _ => rfl) records
  have hback := filterMap_log (f := ServiceNote.handedBack?) (fun _ => rfl) records
  exact ⟨hmade, congrArg (id :: ·) hcalled, hback⟩

theorem mem_made (h : .made id r ∈ seen) : id ∈ made seen := List.mem_filterMap.mpr ⟨_, h, rfl⟩

theorem mem_called (h : .called id verdict left ∈ seen) : id ∈ called seen :=
  List.mem_filterMap.mpr ⟨_, h, rfl⟩

theorem mem_handedBack (h : .handedBack id fate t socket ∈ seen) : id ∈ handedBack seen :=
  List.mem_filterMap.mpr ⟨_, h, rfl⟩

end Seen

/-- How the socket of a request goes back: as the handler has left it, closed if the handler declines or
    panics; or as it was, open, if the handler was not called. -/
inductive Returned (seen : List ServiceNote) (id : TaskId) : Fate → Socket → Prop
  | executed (fate : Fate) (r : Request) (verdict : Verdict) (left : Bool) (pending : ByteArray)
      (executes : fate.isExecuted = true) (asked : .made id r ∈ seen)
      (heard : .called id verdict left ∈ seen) :
      Returned seen id fate { r.socket with isOpen := verdict.isKeep && left, pending }
  | unexecuted (fate : Fate) (r : Request) (skips : fate.isExecuted = false)
      (asked : .made id r ∈ seen) (unheard : id ∉ called seen) (usable : r.socket.isOpen = true) :
      Returned seen id fate r.socket

/-- What is known of an item that waits or runs. -/
structure Errand.Heard (e : Errand) (seen : List ServiceNote) : Prop where
  asked : .made e.id e.request ∈ seen
  waits : e.execution.phase = .ready → e.id ∉ called seen ∧ e.socket = e.request.socket
  runs : e.execution.phase = .acting 1 [] → ∃ verdict left, .called e.id verdict left ∈ seen ∧
    e.isOpen = (verdict.isKeep && left)

theorem Errand.Heard.mono {e : Errand} {seen notes : List ServiceNote} (h : e.Heard seen)
    (hfree : e.execution.phase = .ready → e.id ∉ called notes) : e.Heard (seen ++ notes) where
  asked := List.mem_append_left _ h.asked
  waits hready := by
    obtain ⟨hunheard, hsame⟩ := h.waits hready
    rw [called_append]
    exact ⟨fun hid => (List.mem_append.mp hid).elim hunheard (hfree hready), hsame⟩
  runs hacting := by
    obtain ⟨verdict, left, hheard, hopen⟩ := h.runs hacting
    exact ⟨verdict, left, List.mem_append_left _ hheard, hopen⟩

theorem Returned.mono {seen seen' : List ServiceNote} {id : TaskId} {fate : Fate} {socket : Socket}
    (h : Returned seen id fate socket) (hsub : seen ⊆ seen')
    (hfree : id ∉ called seen → id ∉ called seen') : Returned seen' id fate socket := by
  cases h with
  | executed r verdict left pending executes asked heard =>
      exact .executed fate r verdict left pending executes (hsub asked) (hsub heard)
  | unexecuted r skips asked unheard usable =>
      exact .unexecuted fate r skips (hsub asked) (hfree unheard) usable

namespace Service

/-- The items whose closures are still there. -/
def owners {σ : Type} (s : Service σ) : List Errand := s.errands.filter Errand.owns

/-- What is true of a service, with all that has been seen of it. -/
structure Accounted {σ : Type} (s : Service σ) (seen : List ServiceNote) : Prop where
  sound : s.hub.Sound
  lending : s.hub.Lending
  kept : s.hub.kept = s.owners.map (·.request)
  stands : ∀ e ∈ s.errands, e.Stands
  heard : ∀ e ∈ s.owners, e.Heard seen
  fresh : ∀ id ∈ made seen, id < s.nextId
  once : (made seen).Nodup
  back : (handedBack seen ++ s.owners.map Errand.id).Perm (made seen)
  calledOnce : (called seen).Nodup
  calledMade : ∀ id ∈ called seen, id ∈ made seen
  returned : ∀ id fate t socket, .handedBack id fate t socket ∈ seen → Returned seen id fate socket

variable {σ : Type} {s s' : Service σ} {e e' : Errand} {seen notes : List ServiceNote}
  {move : ServiceMove σ} {place : Nat} {id : TaskId}

/-! ## What a move adds to the account -/

/-- What a move does to the items whose closures are still there and to the requests that are kept, and
    what can be seen of it. -/
inductive Turn (s s' : Service σ) (notes : List ServiceNote) : Prop
  | quiet (owners : s'.owners = s.owners) (kept : s'.hub.kept = s.hub.kept)
      (count : s'.nextId = s.nextId) (silent : notes = [])
  | takes (r : Request) (owners : s'.owners = s.owners ++ [.new s.nextId r])
      (kept : s'.hub.kept = s.hub.kept ++ [r]) (count : s'.nextId = s.nextId + 1)
      (asks : notes = [.made s.nextId r])
  | answers (t : ThreadId) (r : Request) (fate : Fate) (socket : Socket) (later : List ServiceNote)
      (owners : s'.owners = s.owners) (kept : s'.hub.kept = s.hub.kept)
      (count : s'.nextId = s.nextId + 1)
      (asks : notes = .made s.nextId r :: (later ++ [.handedBack s.nextId fate t socket]))
      (calls : made later = [] ∧ (called later).Sublist [s.nextId] ∧ handedBack later = [])
      (result : Returned notes s.nextId fate socket)
  | begins (e e' : Errand) (before after : List Errand) (owners : s.owners = before ++ e :: after)
      (owners' : s'.owners = before ++ e' :: after) (kept : s'.hub.kept = s.hub.kept)
      (count : s'.nextId = s.nextId)
      (same : e'.id = e.id ∧ e'.request = e.request) (waits : e.execution.phase = .ready)
      (runs : e'.execution.phase = .acting 1 []) (verdict : Verdict) (left : Bool)
      (records : List Log.Record) (calls : notes = .called e.id verdict left :: records.map .log)
      (result : e'.isOpen = (verdict.isKeep && left))
  | returns (e : Errand) (before after : List Errand) (owners : s.owners = before ++ e :: after)
      (owners' : s'.owners = before ++ after)
      (kept : s'.hub.kept = s.hub.kept.eraseIdx before.length) (count : s'.nextId = s.nextId)
      (t : ThreadId) (fate : Fate) (back : notes = [.handedBack e.id fate t e.socket])
      (phase : e.execution.phase = if fate.isExecuted then .acting 1 [] else .ready)

/-! ## The account after a move -/

/-- Each item that was made is met once, with its closure or after its socket has gone back. -/
theorem Accounted.distinct (ha : s.Accounted seen) :
    (handedBack seen ++ s.owners.map Errand.id).Nodup := ha.back.nodup_iff.mpr ha.once

theorem Accounted.owner_made (ha : s.Accounted seen) (he : e ∈ s.owners) : e.id ∈ made seen :=
  mem_made (ha.heard e he).asked

theorem Accounted.nextId_notMem (ha : s.Accounted seen) : s.nextId ∉ made seen :=
  fun h => Nat.lt_irrefl _ (ha.fresh _ h)

/-- What a move says of new items. -/
theorem Turn.made_notes (h : Turn s s' notes) :
    made notes = [] ∧ s'.nextId = s.nextId ∨ made notes = [s.nextId] ∧ s'.nextId = s.nextId + 1 := by
  cases h with
  | quiet owners kept count silent => exact Or.inl ⟨by rw [silent]; rfl, count⟩
  | takes r owners kept count asks => exact Or.inr ⟨by rw [asks]; rfl, count⟩
  | answers t r fate socket later owners kept count asks calls result =>
      refine Or.inr ⟨?_, count⟩
      rw [asks, ← List.singleton_append, made_append, made_append, calls.1]
      rfl
  | begins e e' before after owners owners' kept count same waits runs verdict left records calls =>
      exact Or.inl ⟨by rw [calls]; exact (seen_call records).1, count⟩
  | returns e before after owners owners' kept count t fate back =>
      exact Or.inl ⟨by rw [back]; rfl, count⟩

/-- What a move says of calls: a new item calls, or one that waits. -/
theorem Turn.called_notes (h : Turn s s' notes) :
    (called notes).Sublist [s.nextId] ∧ (called notes ⊆ made notes) ∨
      ∃ e ∈ s.owners, e.execution.phase = .ready ∧ called notes = [e.id] := by
  cases h with
  | quiet owners kept count silent =>
      rw [silent]
      exact Or.inl ⟨List.nil_sublist _, List.nil_subset _⟩
  | takes r owners kept count asks =>
      rw [asks]
      exact Or.inl ⟨List.nil_sublist _, List.nil_subset _⟩
  | answers t r fate socket later owners kept count asks calls result =>
      have hcalled : called notes = called later := by
        rw [asks, ← List.singleton_append, called_append, called_append]
        exact List.append_nil _
      rw [hcalled]
      refine Or.inl ⟨calls.2.1, fun id hid => ?_⟩
      rw [asks, List.mem_singleton.mp (calls.2.1.subset hid)]
      exact List.mem_cons_self ..
  | begins e e' before after owners owners' kept count same waits runs verdict left records calls =>
      refine Or.inr ⟨e, ?_, waits, ?_⟩
      · rw [owners]
        exact List.mem_append_right _ (List.mem_cons_self ..)
      · rw [calls]
        exact (seen_call records).2.1
  | returns e before after owners owners' kept count t fate back =>
      rw [back]
      exact Or.inl ⟨List.nil_sublist _, List.nil_subset _⟩

/-- Whoever has been called for, or whose socket has gone back, is not called for again. -/
theorem Accounted.uncalled (ha : s.Accounted seen) (h : Turn s s' notes) (hmade : id ∈ made seen)
    (hother : ∀ e ∈ s.owners, e.execution.phase = .ready → e.id ≠ id) : id ∉ called notes := by
  intro hid
  rcases h.called_notes with ⟨hnew, -⟩ | ⟨e, he, hready, hcalled⟩
  · rw [List.mem_singleton.mp (hnew.subset hid)] at hmade
    exact ha.nextId_notMem hmade
  · rw [hcalled] at hid
    exact hother e he hready (List.mem_singleton.mp hid).symm

theorem Accounted.fresh_next (ha : s.Accounted seen) (h : Turn s s' notes) :
    (∀ id ∈ made (seen ++ notes), id < s'.nextId) ∧ (made (seen ++ notes)).Nodup := by
  rw [made_append]
  rcases h.made_notes with ⟨hnone, hcount⟩ | ⟨hone, hcount⟩
  · rw [hnone, hcount, List.append_nil]
    exact ⟨ha.fresh, ha.once⟩
  · rw [hone, hcount]
    constructor
    · intro id hid
      rcases List.mem_append.mp hid with hold | hnew
      · exact Nat.lt_succ_of_lt (ha.fresh id hold)
      · rw [List.mem_singleton.mp hnew]
        exact Nat.lt_succ_self _
    · refine List.Nodup.append ha.once (List.nodup_singleton _) ?_
      exact List.disjoint_singleton.mpr ha.nextId_notMem

theorem Accounted.called_next (ha : s.Accounted seen) (h : Turn s s' notes) :
    (called (seen ++ notes)).Nodup ∧ ∀ id ∈ called (seen ++ notes), id ∈ made (seen ++ notes) := by
  rw [called_append, made_append]
  rcases h.called_notes with ⟨hnew, hmade⟩ | ⟨e, he, hready, hcalled⟩
  · constructor
    · refine List.Nodup.append ha.calledOnce (hnew.nodup (List.nodup_singleton _)) ?_
      intro id hold hid
      rw [List.mem_singleton.mp (hnew.subset hid)] at hold
      exact ha.nextId_notMem (ha.calledMade _ hold)
    · intro id hid
      rcases List.mem_append.mp hid with hold | hid
      · exact List.mem_append_left _ (ha.calledMade id hold)
      · exact List.mem_append_right _ (hmade hid)
  · rw [hcalled]
    constructor
    · refine List.Nodup.append ha.calledOnce (List.nodup_singleton _) ?_
      exact List.disjoint_singleton.mpr ((ha.heard e he).waits hready).1
    · intro id hid
      rcases List.mem_append.mp hid with hold | hnew
      · exact List.mem_append_left _ (ha.calledMade id hold)
      · rw [List.mem_singleton.mp hnew]
        exact List.mem_append_left _ (ha.owner_made he)

theorem Accounted.kept_next (ha : s.Accounted seen) (h : Turn s s' notes) :
    s'.hub.kept = s'.owners.map (·.request) := by
  cases h with
  | quiet owners kept count silent => rw [kept, owners, ha.kept]
  | takes r owners kept count asks =>
      rw [kept, owners, ha.kept, List.map_append]
      rfl
  | answers t r fate socket later owners kept count asks calls result => rw [kept, owners, ha.kept]
  | begins e e' before after owners owners' kept count same =>
      rw [kept, owners', ha.kept, owners, List.map_append, List.map_append, List.map_cons,
        List.map_cons, same.2]
  | returns e before after owners owners' kept count t fate back phase =>
      rw [kept, owners', ha.kept, owners, List.map_append, List.map_append, List.map_cons,
        ← List.length_map (·.request), List.eraseIdx_append_of_length_le (Nat.le_refl _),
        Nat.sub_self, List.eraseIdx_cons_zero]

/-- A move lets an item go whose socket goes back, and takes up a new one that it makes. -/
theorem Turn.balance (h : Turn s s' notes) :
    (handedBack notes ++ s'.owners.map Errand.id).Perm (s.owners.map Errand.id ++ made notes) := by
  cases h with
  | quiet owners kept count silent =>
      rw [owners, silent]
      exact List.perm_append_comm
  | takes r owners kept count asks =>
      rw [owners, asks, List.map_append]
      exact .refl _
  | answers t r fate socket later owners kept count asks calls result =>
      have hback : handedBack notes = [s.nextId] := by
        rw [asks, ← List.singleton_append, handedBack_append, handedBack_append, calls.2.2]
        rfl
      have hmade : made notes = [s.nextId] := by
        rw [asks, ← List.singleton_append, made_append, made_append, calls.1]
        rfl
      rw [owners, hback, hmade]
      exact List.perm_append_comm
  | begins e e' before after owners owners' kept count same waits runs verdict left records calls =>
      obtain ⟨hmade, -, hback⟩ := @seen_call e.id verdict left records
      rw [owners', owners, calls, hmade, hback, List.map_append, List.map_append, List.map_cons,
        List.map_cons, same.1]
      exact List.perm_append_comm
  | returns e before after owners owners' kept count t fate back phase =>
      rw [owners', owners, back, List.map_append, List.map_append, List.map_cons]
      show (e.id :: (before.map Errand.id ++ after.map Errand.id)).Perm
        (before.map Errand.id ++ e.id :: after.map Errand.id ++ [])
      rw [List.append_nil]
      exact List.perm_middle.symm

theorem Accounted.back_next (ha : s.Accounted seen) (h : Turn s s' notes) :
    (handedBack (seen ++ notes) ++ s'.owners.map Errand.id).Perm (made (seen ++ notes)) := by
  rw [made_append, handedBack_append, List.append_assoc]
  refine (h.balance.append_left _).trans ?_
  rw [← List.append_assoc]
  exact ha.back.append_right _

/-! ### Items that wait or run, and sockets that have gone back -/

/-- An item that waits is met once among the owners. -/
theorem Accounted.id_ne (ha : s.Accounted seen) {before after : List Errand}
    (owners : s.owners = before ++ e :: after) (he' : e' ∈ before ++ after) : e'.id ≠ e.id := by
  have hdistinct := (List.nodup_append.mp ha.distinct).2.1
  rw [owners, List.map_append, List.map_cons, List.nodup_middle, ← List.map_append] at hdistinct
  intro heq
  refine (List.nodup_cons.mp hdistinct).1 ?_
  rw [← heq]
  exact List.mem_map_of_mem he'

theorem Accounted.heard_next (ha : s.Accounted seen) (h : Turn s s' notes) :
    ∀ e ∈ s'.owners, e.Heard (seen ++ notes) := by
  -- an owner that stays is not the one that calls
  have hstays : ∀ e ∈ s.owners, called notes = [] → e.Heard (seen ++ notes) := by
    intro e he hsilent
    refine (ha.heard e he).mono fun _ => ?_
    rw [hsilent]
    exact List.not_mem_nil
  intro x hx
  cases h with
  | quiet owners kept count silent =>
      rw [owners] at hx
      exact hstays x hx (by rw [silent]; rfl)
  | takes r owners kept count asks =>
      rw [owners] at hx
      rcases List.mem_append.mp hx with hold | hnew
      · exact hstays x hold (by rw [asks]; rfl)
      · rw [List.mem_singleton.mp hnew]
        refine ⟨?_, fun _ => ⟨fun hcalled => ?_, rfl⟩, fun h => nomatch h⟩
        · rw [asks]
          exact List.mem_append_right _ (List.mem_cons_self ..)
        · have hsilent : called notes = [] := by
            rw [asks]
            rfl
          rw [called_append, hsilent, List.append_nil] at hcalled
          exact ha.nextId_notMem (ha.calledMade _ hcalled)
  | answers t r fate socket later owners kept count asks calls result =>
      rw [owners] at hx
      refine (ha.heard x hx).mono fun _ hid => ?_
      have hcalled : called notes = called later := by
        rw [asks, ← List.singleton_append, called_append, called_append]
        exact List.append_nil _
      rw [hcalled] at hid
      have hmade := ha.owner_made hx
      rw [List.mem_singleton.mp (calls.2.1.subset hid)] at hmade
      exact ha.nextId_notMem hmade
  | begins e e' before after owners owners' kept count same waits runs verdict left records calls
      result =>
      have he : e ∈ s.owners := by
        rw [owners]
        exact List.mem_append_right _ (List.mem_cons_self ..)
      have hother : x ∈ before ++ after → x.Heard (seen ++ notes) := by
        intro hx
        have hold : x ∈ s.owners := by
          rw [owners]
          exact List.Sublist.subset (List.Sublist.append_left (List.sublist_cons_self ..) _) hx
        refine (ha.heard x hold).mono fun _ hid => ?_
        rw [calls, (seen_call records).2.1] at hid
        exact ha.id_ne owners hx (List.mem_singleton.mp hid)
      rw [owners'] at hx
      rcases List.mem_append.mp hx with hbefore | hx
      · exact hother (List.mem_append_left _ hbefore)
      rcases List.mem_cons.mp hx with rfl | hafter
      · refine ⟨?_, (fun hready => nomatch hready.symm.trans runs), fun _ => ⟨verdict, left, ?_, result⟩⟩
        · rw [same.1, same.2]
          exact List.mem_append_left _ (ha.heard e he).asked
        · rw [same.1, calls]
          exact List.mem_append_right _ (List.mem_cons_self ..)
      · exact hother (List.mem_append_right _ hafter)
  | returns e before after owners owners' kept count t fate back phase =>
      rw [owners'] at hx
      refine hstays x ?_ (by rw [back]; rfl)
      rw [owners]
      exact List.Sublist.subset (List.Sublist.append_left (List.sublist_cons_self ..) _) hx

/-- What goes back now is what its item has made of it. -/
theorem Accounted.returns (ha : s.Accounted seen) (h : Turn s s' notes) {fate : Fate} {t : ThreadId}
    {socket : Socket} (hback : .handedBack id fate t socket ∈ notes) :
    Returned (seen ++ notes) id fate socket := by
  cases h with
  | quiet owners kept count silent =>
      rw [silent] at hback
      exact nomatch hback
  | takes r owners kept count asks =>
      rw [asks] at hback
      exact nomatch List.mem_singleton.mp hback
  | answers u r fate' socket' later owners kept count asks calls result =>
      have heq : ServiceNote.handedBack id fate t socket = .handedBack s.nextId fate' u socket' := by
        rw [asks] at hback
        rcases List.mem_cons.mp hback with hfirst | hback
        · exact nomatch hfirst
        rcases List.mem_append.mp hback with hlater | hlast
        · have hmem := mem_handedBack hlater
          rw [calls.2.2] at hmem
          exact nomatch hmem
        · exact List.mem_singleton.mp hlast
      cases heq
      refine result.mono (List.subset_append_right ..) fun hfree hid => ?_
      rw [called_append] at hid
      rcases List.mem_append.mp hid with hold | hnew
      · exact ha.nextId_notMem (ha.calledMade _ hold)
      · exact hfree hnew
  | begins e e' before after owners owners' kept count same waits runs verdict left records calls =>
      have hmem := mem_handedBack hback
      rw [calls, (seen_call records).2.2] at hmem
      exact nomatch hmem
  | returns e before after owners owners' kept count u fate' back phase =>
      rw [back] at hback ⊢
      cases List.mem_singleton.mp hback
      have he : e ∈ s.owners := by
        rw [owners]
        exact List.mem_append_right _ (List.mem_cons_self ..)
      have hheard := ha.heard e he
      have hwas : Returned seen e.id fate e.socket := by
        cases hexecuted : fate.isExecuted with
        | true =>
            rw [hexecuted] at phase
            obtain ⟨verdict, left, hcalled, hopen⟩ := hheard.runs phase
            rw [Errand.socket, hopen]
            exact .executed fate e.request verdict left e.pending hexecuted hheard.asked hcalled
        | false =>
            rw [hexecuted] at phase
            obtain ⟨hunheard, hsame⟩ := hheard.waits phase
            rw [hsame]
            refine .unexecuted fate e.request hexecuted hheard.asked hunheard ?_
            refine ha.lending.asked _ (List.mem_append_left _ ?_)
            rw [ha.kept]
            exact List.mem_map_of_mem he
      refine hwas.mono (List.subset_append_left ..) fun hfree => ?_
      rwa [called_append, show called [ServiceNote.handedBack e.id fate t e.socket] = [] from rfl,
        List.append_nil]

theorem Accounted.returned_next (ha : s.Accounted seen) (h : Turn s s' notes) {fate : Fate}
    {t : ThreadId} {socket : Socket} (hback : .handedBack id fate t socket ∈ seen ++ notes) :
    Returned (seen ++ notes) id fate socket := by
  rcases List.mem_append.mp hback with hold | hnew
  · have hgone := mem_handedBack hold
    refine (ha.returned id fate t socket hold).mono (List.subset_append_left ..) fun hfree hid => ?_
    rw [called_append] at hid
    refine (List.mem_append.mp hid).elim hfree (ha.uncalled h ?_ ?_)
    · exact ha.back.subset (List.mem_append_left _ hgone)
    -- its item is not among those whose closures are still there
    · rintro e he - rfl
      exact List.disjoint_of_nodup_append ha.distinct hgone (List.mem_map_of_mem he)
  · exact ha.returns h hnew

theorem accounted_new (listener : Descriptor) (streams : Nat → σ) :
    (Service.new listener streams).Accounted [] where
  sound := Events.State.sound_new listener
  lending := Events.State.lending_new listener
  kept := rfl
  stands _ h := nomatch h
  heard _ h := nomatch h
  fresh _ h := nomatch h
  once := List.nodup_nil
  back := .refl _
  calledOnce := List.nodup_nil
  calledMade _ h := nomatch h
  returned _ _ _ _ h := nomatch h

end Service

end PooledServer.Server
