import PooledServer.Proofs.Pool.Owners

/-!
# How many workers a pool has

    Growths of a pool that does not run are only planned: each adds its count to a 64-bit number, and the
    next start makes as many workers as that number says.  A sum that does not fit is a panic of the call
    and leaves the number alone, or it wraps.  What the pool is meant to have is therefore the number that
    it was made for with all growths added in this way (`State.Planning`), and a start that succeeds
    leaves exactly as many workers (`State.Opens`).

    As long as sums are checked, or the true sum fits, the number never falls and is never zero, and a
    stop of the started pool finds workers that empty the queue (`State.Drains`).  If a sum wraps to zero
    the pool opens without a worker, and a stop waits for ever for what nobody takes (`State.Strands`). -/

namespace PooledServer.Pool

open Work (Item Note Fate TaskId)

/-! ## Growths -/

/-- The growths that the owner asks for with a move. -/
def Move.growths : Move → List Nat
  | .order (.grow count) => [count]
  | _ => []

/-- The growths that the owner asks for, in their order. -/
def growths (moves : List Move) : List Nat := moves.flatMap Move.growths

theorem growths_append (moves later : List Move) :
    growths (moves ++ later) = growths moves ++ growths later :=
  List.flatMap_append

/-- The workers that the owner asks for with all growths. -/
def askedFor (moves : List Move) : Nat := (growths moves).sum

namespace Arithmetic

variable {arithmetic : Arithmetic} {count sum : UInt64} {more : Nat} {message : String}

/-- What a growth leaves of a count: a call that panics leaves it alone. -/
def grown (arithmetic : Arithmetic) (count : UInt64) (more : Nat) : UInt64 :=
  match arithmetic.add count more with
  | .ok sum => sum
  | .error _ => count

theorem grown_of_ok (h : arithmetic.add count more = .ok sum) : arithmetic.grown count more = sum := by
  simp only [grown, h]

theorem grown_of_error (h : arithmetic.add count more = .error message) :
    arithmetic.grown count more = count := by
  simp only [grown, h]

/-- A sum that wraps or fits is carried out. -/
theorem toNat_grown (h : arithmetic = .wrapping ∨ count.toNat + more < UInt64.size) :
    (arithmetic.grown count more).toNat = (count.toNat + more) % UInt64.size := by
  cases hsum : arithmetic.add count more with
  | ok sum =>
      rw [grown_of_ok hsum]
      exact (toNat_of_add hsum).1
  | error message =>
      obtain ⟨hchecked, hle⟩ := of_add_error hsum
      rcases h with rfl | hlt
      · cases hchecked
      · exact absurd hlt (Nat.not_lt.mpr hle)

/-- A sum that is checked or fits does not fall. -/
theorem le_grown (h : arithmetic = .checked ∨ count.toNat + more < UInt64.size) :
    count ≤ arithmetic.grown count more := by
  cases hsum : arithmetic.add count more with
  | ok sum =>
      have hroom := h.elim (toNat_of_add hsum).2 id
      rw [grown_of_ok hsum, UInt64.le_iff_toNat_le, toNat_of_add_of_lt hsum hroom]
      exact Nat.le_add_right _ _
  | error message =>
      rw [grown_of_error hsum]
      exact UInt64.le_refl _

theorem toNat_foldl_grown (counts : List Nat)
    (h : arithmetic = .wrapping ∨ count.toNat + counts.sum < UInt64.size) :
    (counts.foldl arithmetic.grown count).toNat = (count.toNat + counts.sum) % UInt64.size := by
  induction counts generalizing count with
  | nil => exact (Nat.mod_eq_of_lt (UInt64.toNat_lt_size count)).symm
  | cons more rest ih =>
      rw [List.sum_cons] at h ⊢
      have hgrown : (arithmetic.grown count more).toNat = (count.toNat + more) % UInt64.size :=
        toNat_grown (h.imp_right fun hlt => by omega)
      have hrest : arithmetic = .wrapping ∨
          (arithmetic.grown count more).toNat + rest.sum < UInt64.size :=
        h.imp_right fun hlt => by
          rw [hgrown, Nat.mod_eq_of_lt (by omega)]
          omega
      rw [List.foldl_cons, ih hrest, hgrown, Nat.mod_add_mod, Nat.add_assoc]

theorem le_foldl_grown (counts : List Nat)
    (h : arithmetic = .checked ∨ count.toNat + counts.sum < UInt64.size) :
    count ≤ counts.foldl arithmetic.grown count := by
  induction counts generalizing count with
  | nil => exact UInt64.le_refl _
  | cons more rest ih =>
      rw [List.sum_cons] at h
      refine UInt64.le_trans (le_grown (h.imp_right fun hlt => by omega)) (ih (h.imp_right ?_))
      intro hlt
      rw [toNat_grown (Or.inr (by omega)), Nat.mod_eq_of_lt (by omega)]
      omega

/-- More growths lead no lower. -/
theorem foldl_grown_le {counts further : List Nat} (hle : counts <+: further)
    (h : arithmetic = .checked ∨ count.toNat + further.sum < UInt64.size) :
    counts.foldl arithmetic.grown count ≤ further.foldl arithmetic.grown count := by
  obtain ⟨rest, rfl⟩ := hle
  rw [List.sum_append] at h
  rw [List.foldl_append]
  refine le_foldl_grown rest (h.imp_right fun hlt => ?_)
  rw [toNat_foldl_grown counts (Or.inr (by omega)), Nat.mod_eq_of_lt (by omega)]
  omega

end Arithmetic

/-- A start that has failed is about to send its workers away. -/
def OrderPoint.isFailing : OrderPoint → Bool
  | .closing (some _) | .dismissing _ (some _) | .joining (some _) => true
  | _ => false

namespace State

/-- A sequence of moves of a pool whose owner gives one order at a time.  Items may do what they like,
    and numbers may wrap. -/
def tenure (s : State) : List Move → Option State
  | [] => some s
  | move :: rest =>
    if s.heeds move then (s.move move).bind fun (s', _) => s'.tenure rest else none

/-- What is true of every pool with one owner. -/
structure Owned (s : State) : Prop where
  manned : ∃ notes fatal, s.Manned notes fatal
  situated : s.Situated

variable {s s' s₁ : State} {t : ThreadId} {p : OrderPoint} {move : Move} {moves rest : List Move}
  {notes new : List Note} {fatal : List Item} {first size : UInt64} {arithmetic : Arithmetic}
  {carried left : List Nat}

theorem Owned.placed (h : s.Owned) : s.Placed := by
  obtain ⟨notes, fatal, hmanned⟩ := h.manned
  exact hmanned.placed

/-! ## Tenures -/

theorem Owned.goes (h : s.Owned) (hheeds : s.heeds move = true)
    (hmove : s.move move = some (s', new)) : s.Advances move s' ∧ s'.Owned := by
  obtain ⟨notes, fatal, hmanned⟩ := h.manned
  have hadvances := hmanned.advances hheeds hmove
  have hregular := (Bool.and_eq_true_iff.mp hheeds).1
  exact ⟨hadvances, ⟨_, _, hmanned.move hregular hmove⟩, h.situated.advances h.placed hadvances⟩

/-- What every move keeps holds at the end of a tenure.  What is kept may speak of the moves that are
    still to come. -/
theorem tenure_keeps {P : State → List Move → Prop}
    (hkeeps : ∀ s move rest s' new, s.Owned → P s (move :: rest) → s.heeds move = true →
      s.move move = some (s', new) → s.Advances move s' → P s' rest)
    (h : s.Owned) (hstart : P s moves) (htenure : s.tenure moves = some s') :
    s'.Owned ∧ P s' [] := by
  induction moves generalizing s with
  | nil =>
      cases htenure
      exact ⟨h, hstart⟩
  | cons move rest ih =>
      simp only [tenure] at htenure
      split at htenure
      · rename_i hheeds
        obtain ⟨⟨s₁, new⟩, hmove, hrest⟩ := Option.bind_eq_some_iff.mp htenure
        obtain ⟨hadvances, hs₁⟩ := h.goes hheeds hmove
        exact ih hs₁ (hkeeps s move rest s₁ new h hstart hheeds hmove hadvances) hrest
      · cases htenure

theorem Owned.tenure (h : s.Owned) (htenure : s.tenure moves = some s') : s'.Owned :=
  (tenure_keeps (P := fun _ _ => True) (fun _ _ _ _ _ _ _ _ _ _ => trivial) h trivial htenure).1

theorem tenure_append (s : State) (moves later : List Move) :
    s.tenure (moves ++ later) = (s.tenure moves).bind fun s' => s'.tenure later := by
  induction moves generalizing s with
  | nil => rfl
  | cons move rest ih =>
      simp only [List.cons_append, tenure]
      split
      · rw [Option.bind_assoc]
        exact congrArg _ (funext fun _ => ih _)
      · rfl

theorem owned_create {name : String} {faults faults' : Sync.Faults} {made : List Note}
    (h : create name size faults arithmetic = (made, faults', .ok s)) : s.Owned :=
  ⟨⟨_, _, manned_create h⟩, (sane_create h).orderly.situated⟩

theorem Owned.order (h : s.Owned) (hidle : s.isIdle = true) (order : Order) : (s.order order).Owned := by
  have hheeds : s.heeds (.order order) = true := Bool.and_eq_true_iff.mpr ⟨rfl, hidle⟩
  exact (h.goes hheeds rfl).2

/-! ## Planning -/

/-- Nobody has started the pool that was made for `first` workers.  The growths `carried` have come to
    their end, and `left` holds the one that is under way, if there is one. -/
structure Planning (s : State) (arithmetic : Arithmetic) (first : UInt64) (carried left : List Nat) :
    Prop where
  nobody : s.workers = []
  fresh : s.Fresh
  sums : s.arithmetic = arithmetic
  size : s.size = carried.foldl arithmetic.grown first
  orders : ∀ t p, s.activity? t = some (.order p) →
    (∃ count, left = [count] ∧ p = .begun (.grow count)) ∨
      left = [] ∧ ∃ measures, p = .begun (.stop measures)
  idle : (∀ t p, s.activity? t ≠ some (.order p)) → left = []

theorem planning_create {name : String} {faults faults' : Sync.Faults} {made : List Note}
    (h : create name size faults arithmetic = (made, faults', .ok s)) :
    s.Planning arithmetic size [] [] := by
  obtain ⟨queueName, mutexName, rfl⟩ := create_eq h
  exact ⟨rfl, ⟨rfl, rfl, rfl, fun _ _ hasked => nomatch hasked⟩, rfl, rfl, fun _ _ hu => (nomatch hu),
    fun _ => rfl⟩

/-- **A MOVE BEFORE THE START** may carry out the growth that is under way, or begin one. -/
theorem Planning.advances (h : s.Planning arithmetic first carried left) (hs : s.Owned)
    (ha : s.Advances move s') (hstart : move ≠ .order .start) :
    ∃ carried' left', s'.Planning arithmetic first carried' left' ∧ carried <+: carried' ∧
      carried' ++ left' = carried ++ left ++ move.growths := by
  cases ha with
  | background alone aside unordered =>
      have hasks : move.growths = [] := by
        cases move with
        | order order => exact absurd rfl (unordered order)
        | _ => rfl
      refine ⟨carried, left, ⟨alone.steady.nobody h.nobody, alone.steady.fresh h.fresh,
        alone.arithmetic.trans h.sums, alone.size.trans h.size, ?_, ?_⟩, List.prefix_rfl, ?_⟩
      · exact fun u p hu => h.orders u p (alone.orders u p hu)
      · exact fun hnone => h.idle fun u p hu => hnone u p (alone.stays u _ hu rfl)
      · rw [hasks, List.append_nil]
  | begins order idle =>
      have hnone := not_order_of_isIdle idle
      have hleft := h.idle hnone
      have hnew : ∀ u p, (s.order order).activity? u = some (.order p) → p = .begun order := by
        intro u p hu
        rcases launch_cases hs.placed hu with hu | ⟨-, heq⟩
        · exact absurd hu (hnone u p)
        · cases heq
          rfl
      have hbusy : ¬ ∀ u p, (s.order order).activity? u ≠ some (.order p) := fun hnot =>
        hnot s.nextThread (.begun order) (activity?_order hs.placed _)
      cases order with
      | start => exact absurd rfl hstart
      | grow count =>
          refine ⟨carried, [count], ⟨h.nobody, h.fresh, h.sums, h.size, ?_,
            fun hnot => absurd hnot hbusy⟩, List.prefix_rfl, ?_⟩
          · exact fun u p hu => Or.inl ⟨count, rfl, hnew u p hu⟩
          · rw [hleft, List.append_nil]
            rfl
      | stop measures =>
          refine ⟨carried, [], ⟨h.nobody, h.fresh, h.sums, h.size, ?_,
            fun hnot => absurd hnot hbusy⟩, List.prefix_rfl, ?_⟩
          · exact fun u p hu => Or.inr ⟨rfl, measures, hnew u p hu⟩
          · rw [hleft]
            exact (List.append_nil _).symm
  | @staffs t luck p s₁ b here step =>
      -- the order is carried out in this one step, and there is no other
      have hover : (∀ q, b ≠ .order q) → ∀ u q, (s₁.place t b).activity? u ≠ some (.order q) :=
        fun hb u q => hs.situated.over hs.placed here step.orders hb
      rcases h.orders t p here with ⟨count, rfl, rfl⟩ | ⟨rfl, measures, rfl⟩
      · have hgrown : (carried ++ [count]).foldl arithmetic.grown first =
            arithmetic.grown s.size count := by
          rw [List.foldl_append, ← h.size]
          rfl
        cases step with
        | grows count welcome => cases welcome.symm.trans h.fresh.1
        | plans count size closed sum =>
            have hnone := hover fun _ heq => nomatch heq
            refine ⟨carried ++ [count], [], ⟨h.nobody, h.fresh, h.sums, ?_, ?_, fun _ => rfl⟩,
              List.prefix_append _ _, rfl⟩
            · rw [h.sums] at sum
              exact (hgrown.trans (Arithmetic.grown_of_ok sum)).symm
            · exact fun u q hu => absurd hu (hnone u q)
        | overplans count message closed sum =>
            have hnone := hover fun _ heq => nomatch heq
            refine ⟨carried ++ [count], [], ⟨h.nobody, h.fresh, h.sums, ?_, ?_, fun _ => rfl⟩,
              List.prefix_append _ _, rfl⟩
            · rw [h.sums] at sum
              exact (hgrown.trans (Arithmetic.grown_of_error sum)).symm
            · exact fun u q hu => absurd hu (hnone u q)
        | carriesOn plain step => cases plain
      · cases step with
        | carriesOn plain step =>
            cases step with
            | stopsNothing measures closed nobody =>
                have hnone := hover fun _ heq => nomatch heq
                exact ⟨carried, [], ⟨h.nobody, h.fresh, h.sums, h.size,
                  fun u q hu => absurd hu (hnone u q), fun _ => rfl⟩, List.prefix_rfl,
                  (List.append_nil _).symm⟩
            | measures stop monitor due called | drains stop monitor due called =>
                rcases due with hr | hw
                · cases hr.symm.trans h.fresh.1
                · exact absurd h.nobody hw

/-- **BEFORE THE START** growths add up. -/
theorem Planning.tenure (h : s.Planning arithmetic first carried left) (hs : s.Owned)
    (hstart : .order .start ∉ moves) (htenure : s.tenure moves = some s') :
    ∃ carried' left', s'.Planning arithmetic first carried' left' ∧ carried <+: carried' ∧
      carried' ++ left' = carried ++ left ++ growths moves := by
  have hkeeps := tenure_keeps
    (P := fun s₁ rest => .order .start ∉ rest ∧ ∃ carried' left',
      s₁.Planning arithmetic first carried' left' ∧ carried <+: carried' ∧
        carried' ++ left' ++ growths rest = carried ++ left ++ growths moves)
    ?_ hs ⟨hstart, carried, left, h, List.prefix_rfl, rfl⟩ htenure
  · obtain ⟨-, -, carried', left', hplanning, hle, heq⟩ := hkeeps
    exact ⟨carried', left', hplanning, hle, (List.append_nil _).symm.trans heq⟩
  · rintro s₁ move rest s₂ new hs₁ ⟨hnot, carried₁, left₁, h₁, hle, heq⟩ - - hadvances
    have hmove : move ≠ .order .start := by
      rintro rfl
      exact hnot (List.mem_cons_self ..)
    obtain ⟨carried₂, left₂, h₂, hle₂, heq₂⟩ := h₁.advances hs₁ hadvances hmove
    refine ⟨mt (List.mem_cons_of_mem _) hnot, carried₂, left₂, h₂, hle.trans hle₂, ?_⟩
    rw [← heq, heq₂, List.append_assoc]
    rfl

/-- A pool is made for one worker at least. -/
theorem toNat_pos_of_create {name : String} {faults faults' : Sync.Faults} {made : List Note}
    (h : create name size faults arithmetic = (made, faults', .ok s)) : 0 < size.toNat := by
  have hpeopled := (tended_create h).staffed.peopled
  rwa [(planning_create h).size] at hpeopled

/-! ## Opening -/

/-- Thread `t` carries out the start of a new pool that is meant to have `size` workers, or has
    returned. -/
inductive Opens (s : State) (t : ThreadId) (size : UInt64) : Prop
  | begun (here : s.activity? t = some (.order (.begun .start))) (nobody : s.workers = [])
      (closed : s.running = false) (meant : s.size = size)
  | asking (here : s.activity? t = some (.order .asking)) (nobody : s.workers = [])
      (meant : s.size = size)
  | hiring (left : Nat) (here : s.activity? t = some (.order (.hiring left)))
      (counted : s.workers.length + left = size.toNat) (meant : s.size = size)
  | fails (p : OrderPoint) (here : s.activity? t = some (.order p)) (failing : p.isFailing = true)
  | failed (e : PoolError) (here : s.activity? t = some (.finished (.ordered (.error e))))
  | opened (here : s.activity? t = some (.finished (.ordered (.ok ())))) (running : s.running = true)
      (counted : s.workers.length = size.toNat) (meant : s.size = size)
      (idle : ∀ u p, s.activity? u ≠ some (.order p))

/-- **A START MAKES THE WORKERS** one after the other, until there are as many as it is to make. -/
theorem Opens.advances (h : s.Opens t size) (hs : s.Owned) (ha : s.Advances move s')
    (hnot : ∀ order, move ≠ .order order) : s'.Opens t size := by
  have hfollow := fun {a} => ha.follow (t := t) (a := a) hs.situated hs.placed
  cases h with
  | begun here nobody closed meant =>
      rcases hfollow here rfl with ⟨hstays, hback⟩ | ⟨luck, p, s₁, b, heq, rfl, -, step, hb⟩
      · have alone := hback _ rfl
        exact .begun hstays (alone.steady.nobody nobody) (alone.steady.running.trans closed)
          (alone.size.trans meant)
      · cases heq
        cases step with
        | carriesOn plain step =>
            cases step with
            | startsNothing welcome => cases welcome.symm.trans closed
            | inquires monitor closed called => exact .asking hb nobody meant
  | asking here nobody meant =>
      rcases hfollow here rfl with ⟨hstays, hback⟩ | ⟨luck, p, s₁, b, heq, rfl, -, step, hb⟩
      · have alone := hback _ rfl
        exact .asking hstays (alone.steady.nobody nobody) (alone.size.trans meant)
      · cases heq
        cases step with
        | carriesOn plain step =>
            cases step with
            | mayStart monitor answered =>
                refine .hiring _ hb ?_ meant
                show s.workers.length + s.size.toNat = size.toNat
                rw [nobody, meant]
                exact Nat.zero_add _
            | mayNot monitor answered => exact .failed _ hb
  | hiring left here counted meant =>
      rcases hfollow here rfl with ⟨hstays, hback⟩ | ⟨luck, p, s₁, b, heq, rfl, -, step, hb⟩
      · have alone := hback _ rfl
        refine .hiring left hstays ?_ (alone.size.trans meant)
        rw [alone.length_workers]
        exact counted
      · cases heq
        have orders := step.orders
        cases step with
        | hires left made =>
            refine .hiring left hb ?_ meant
            show s.enlarged.workers.length + left = size.toNat
            rw [length_workers_enlarged, ← counted, Nat.add_right_comm]
            rfl
        | givesUp left e monitor failed called => exact .fails _ hb rfl
        | carriesOn plain step =>
            cases step with
            | opens =>
                exact .opened hb rfl counted meant fun u q =>
                  hs.situated.over hs.placed here orders fun _ heq => nomatch heq
            | hires | givesUp => cases plain
  | fails p here failing =>
      rcases hfollow here rfl with ⟨hstays, -⟩ | ⟨luck, p, s₁, b, heq, rfl, -, step, hb⟩
      · exact .fails p hstays failing
      · cases heq
        cases step with
        | carriesOn plain step =>
            cases step with
            | closes failure | dismisses id left failure | dismissed failure
            | joins failure w rest first gone =>
                cases failure with
                | none => cases failing
                | some e => exact .fails _ hb rfl
            | joined failure nobody =>
                cases failure with
                | none => cases failing
                | some e => exact .failed e hb
            | _ => cases failing
        | _ => cases failing
  | failed e here =>
      rcases hfollow here rfl with ⟨hstays, -⟩ | ⟨luck, p, s₁, b, heq, -⟩
      · exact .failed e hstays
      · cases heq
  | opened here running counted meant idle =>
      -- nobody carries out an order any more
      cases ha with
      | background alone aside unordered =>
          refine .opened (alone.stays t _ here rfl) (alone.steady.running.trans running) ?_
            (alone.size.trans meant) fun u p hu => idle u p (alone.orders u p hu)
          rw [alone.length_workers]
          exact counted
      | begins order idle => exact absurd rfl (hnot order)
      | staffs there step => exact absurd there (idle _ _)

theorem Opens.tenure (h : s.Opens t size) (hs : s.Owned) (hnot : ∀ order, Move.order order ∉ moves)
    (htenure : s.tenure moves = some s') : s'.Opens t size := by
  have hkeeps := tenure_keeps
    (P := fun s₁ rest => (∀ order, Move.order order ∉ rest) ∧ s₁.Opens t size) ?_ hs ⟨hnot, h⟩ htenure
  · exact hkeeps.2.2
  · rintro s₁ move rest s₂ new hs₁ ⟨hnot, h₁⟩ - - hadvances
    refine ⟨fun order => mt (List.mem_cons_of_mem _) (hnot order), h₁.advances hs₁ hadvances ?_⟩
    rintro order rfl
    exact hnot order (List.mem_cons_self ..)

/-- A start that has succeeded has left the pool running, with the workers that it was to make. -/
theorem Opens.returned (h : s.Opens t size)
    (here : s.activity? t = some (.finished (.ordered (.ok ())))) :
    s.running = true ∧ s.size = size ∧ s.workers.length = size.toNat ∧
      ∀ u p, s.activity? u ≠ some (.order p) := by
  cases h with
  | begun there | asking there | hiring left there | fails p there | failed e there =>
      cases here.symm.trans there
  | opened there running counted meant idle => exact ⟨running, meant, counted, idle⟩

/-- The start of a pool that was only planned, once it has succeeded. -/
theorem Planning.opens (h : s.Planning arithmetic first carried left) (hs : s.Owned) (hidle : s.isIdle = true)
    (hnot : ∀ order, Move.order order ∉ moves) (htenure : (s.order .start).tenure moves = some s')
    (hreturned : s'.activity? s.nextThread = some (.finished (.ordered (.ok ())))) :
    s'.running = true ∧ s'.size = s.size ∧ s'.workers.length = s.size.toNat ∧ s'.isIdle = true := by
  have hordered := hs.order hidle .start
  have hbegun : (s.order .start).Opens s.nextThread s.size :=
    .begun (activity?_order hs.placed _) h.nobody h.fresh.1 rfl
  obtain ⟨hrunning, hmeant, hcounted, hdone⟩ :=
    (hbegun.tenure hordered hnot htenure).returned hreturned
  exact ⟨hrunning, hmeant, hcounted, isIdle_of_not_order (hordered.tenure htenure).placed hdone⟩

/-! ## A stop where somebody works -/

/-- What holds while thread `t` stops a pool, and after it: what has returned has done its work; if it
    has not, some thread has a step unless a task is blocked; and as long as it waits for the queue to
    drain there is a worker in its loop. -/
structure Attended (s : State) (notes : List Note) (t : ThreadId) : Prop where
  returned : ∀ result, s.activity? t = some (.finished result) →
    result = .ordered (.ok ()) ∧ s.Done notes
  goesOn : s.Unblocked → (∀ result, s.activity? t ≠ some (.finished result)) → ∃ u, s.CanGo u
  draining : s.activity? t = some (.order .draining) →
    ∃ u id p, s.activity? u = some (.worker id p) ∧ p.isOut = false

/-- A stop of the pool does its work. -/
def Drains (s : State) (notes : List Note) : Prop :=
  ∀ measures moves s' notes', (s.order (.stop measures)).run notes moves = some (s', notes') →
    s'.Attended notes' s.nextThread

theorem Stopping.attended (h : s.Sane notes) (hstop : s.Stopping t) : s.Attended notes t := by
  refine ⟨fun result => hstop.returned h, hstop.exists_canGo h, fun here => ?_⟩
  obtain ⟨a, ha, hfit⟩ := hstop
  cases Option.some.inj (here.symm.trans ha)
  have hsome : s.workers ≠ [] := hfit
  obtain ⟨w, hw⟩ := List.exists_mem_of_ne_nil _ hsome
  obtain ⟨p, hp⟩ := h.placed.staffed w hw
  refine ⟨w.thread, w.id, p, hp, ?_⟩
  cases hout : p.isOut with
  | false => rfl
  | true =>
      -- while the pool drains its queue still runs
      have hopen : s.monitor.contents.running = true := (h.orderly.fits t _ here).2
      cases hopen.symm.trans (h.orderly.out _ _ p hp hout)

theorem Sane.drains (h : s.Sane notes) (hidle : s.isIdle = true) (hsome : s.workers ≠ []) :
    s.Drains notes := by
  intro measures moves s' notes' hrun
  obtain ⟨hsane, hstop⟩ := (h.stopping hidle hsome measures).run (h.order hidle) hrun
  exact hstop.attended hsane

/-! ## A stop where nobody works -/

theorem Stepped.queued_grows {said : List (Fate × TaskId)} (hs : s.Placed)
    (hstep : s.Stepped t s' said) (hnobody : s.workers = []) : s.queued <+: s'.queued := by
  cases hstep with
  | works here step =>
      obtain ⟨w, hmem, -⟩ := hs.known _ _ _ here
      rw [hnobody] at hmem
      cases hmem
  | submits here step =>
      have hqueue := step.entry.queue
      have hnone : Fate.handedOut.met said = [] := by cases step <;> rfl
      rw [hnone] at hqueue
      exact ⟨_, hqueue⟩
  | orders here step => exact ⟨_, step.entry.queue⟩

/-- Where nobody works, nothing that is queued is ever taken. -/
theorem Manned.queued_grows (h : s.Manned notes fatal) (hregular : move.isRegular = true)
    (hmove : s.move move = some (s', new)) (hnobody : s.workers = []) : s.queued <+: s'.queued := by
  cases move with
  | step t luck =>
      obtain ⟨hlock, hwait⟩ := Bool.and_eq_true_iff.mp hregular
      exact (h.stepped_of_step hlock hwait hmove).queued_grows h.placed hnobody
  | wakeUp t =>
      obtain ⟨monitor, hwake, heq⟩ := Option.map_eq_some_iff.mp hmove
      obtain ⟨rfl, -⟩ := Prod.mk.inj heq
      have hcontents := (Queue.Monitor.asked_wakeUp hwake).2
      rw [queued_of_contents (congrArg _ hcontents)]
  | make | submit | order | openGate =>
      obtain ⟨rfl, -⟩ := Prod.mk.inj (Option.some.inj hmove)
      exact List.prefix_rfl
  | request | execute => cases hregular

/-- Thread `t` stops a pool without workers.  It waits for the queue to drain, or is about to. -/
inductive WaitsInVain (s : State) (t : ThreadId) : Prop
  | begun (measures : Bool) (here : s.activity? t = some (.order (.begun (.stop measures))))
      (nobody : s.workers = []) (running : s.running = true)
  | measuring (here : s.activity? t = some (.order .measuring)) (nobody : s.workers = [])
  | draining (here : s.activity? t = some (.order .draining)) (nobody : s.workers = [])

theorem WaitsInVain.nobody (h : s.WaitsInVain t) : s.workers = [] := by
  cases h with
  | begun measures here nobody running => exact nobody
  | measuring here nobody => exact nobody
  | draining here nobody => exact nobody

/-- **NOTHING ENDS THE WAIT** for a queue that is not empty. -/
theorem WaitsInVain.advances (h : s.WaitsInVain t) (hs : s.Owned) (hqueued : s.queued ≠ [])
    (ha : s.Advances move s') : s'.WaitsInVain t := by
  have hfollow := fun {a} => ha.follow (t := t) (a := a) hs.situated hs.placed
  cases h with
  | begun measures here nobody running =>
      rcases hfollow here rfl with ⟨hstays, hback⟩ | ⟨luck, p, s₁, b, heq, rfl, -, step, hb⟩
      · have alone := hback _ rfl
        exact .begun measures hstays (alone.steady.nobody nobody) (alone.steady.running.trans running)
      · cases heq
        cases step with
        | carriesOn plain step =>
            cases step with
            | stopsNothing measures closed nobody => cases closed.symm.trans running
            | measures stop monitor due called => exact .measuring hb nobody
            | drains stop monitor due called => exact .draining hb nobody
  | measuring here nobody =>
      rcases hfollow here rfl with ⟨hstays, hback⟩ | ⟨luck, p, s₁, b, heq, rfl, -, step, hb⟩
      · exact .measuring hstays ((hback _ rfl).steady.nobody nobody)
      · cases heq
        cases step with
        | carriesOn plain step =>
            cases step with
            | measured between monitor count answered called => exact .draining hb nobody
  | draining here nobody =>
      rcases hfollow here rfl with ⟨hstays, hback⟩ | ⟨luck, p, s₁, b, heq, rfl, -, step, hb⟩
      · exact .draining hstays ((hback _ rfl).steady.nobody nobody)
      · cases heq
        cases step with
        | carriesOn plain step =>
            cases step with
            | waits monitor waited => exact .draining hb nobody
            | drained between monitor answer answered called =>
                obtain ⟨-, -, hempty⟩ := answered.shutDownWhenDrained
                have hopen : s.monitor.contents.running = true := (hs.situated.fits t _ here).2
                exact absurd (congrArg (List.map _) (hempty hopen)) hqueued

/-- A stop of the pool never returns, and what is queued stays there. -/
def Strands (s : State) : Prop :=
  ∀ measures moves s', (s.order (.stop measures)).tenure moves = some s' →
    s.queued <+: s'.queued ∧ ∀ result, s'.activity? s.nextThread ≠ some (.finished result)

/-- **A DRAIN THAT NOBODY PERFORMS**. -/
theorem Owned.strands (h : s.Owned) (hidle : s.isIdle = true) (hnobody : s.workers = [])
    (hrunning : s.running = true) (hqueued : s.queued ≠ []) : s.Strands := by
  intro measures moves s' htenure
  have hbegun : (s.order (.stop measures)).WaitsInVain s.nextThread :=
    .begun measures (activity?_order h.placed _) hnobody hrunning
  have hkeeps := tenure_keeps
    (P := fun s₁ _ => s.queued <+: s₁.queued ∧ s₁.WaitsInVain s.nextThread) ?_ (h.order hidle _)
    ⟨List.prefix_rfl, hbegun⟩ htenure
  · obtain ⟨-, hkept, hwaits⟩ := hkeeps
    refine ⟨hkept, fun result hresult => ?_⟩
    cases hwaits with
    | begun measures here nobody running => cases hresult.symm.trans here
    | measuring here nobody => cases hresult.symm.trans here
    | draining here nobody => cases hresult.symm.trans here
  · rintro s₁ move rest s₂ new hs₁ ⟨hkept, hwaits⟩ hheeds hmove hadvances
    obtain ⟨notes, fatal, hmanned⟩ := hs₁.manned
    have hregular := (Bool.and_eq_true_iff.mp hheeds).1
    have hmore := hmanned.queued_grows hregular hmove hwaits.nobody
    have hsome : s₁.queued ≠ [] := fun hnil => hqueued (List.prefix_nil.mp (hnil ▸ hkept))
    exact ⟨hkept.trans hmore, hwaits.advances hs₁ hsome hadvances⟩

/-! ## From the creation to a stop -/

/-- **A STARTED POOL HAS THE WORKERS THAT WERE PLANNED**.  Take any tenure of a new pool in which it is not
    started.

    * If sums are checked, or if the workers that the pool was made for and those of all growths can be
      counted, the number of workers that it is meant to have is never zero and never falls.
    * When no order is under way this number has come from the first one by all growths, and is the true
      sum modulo `UInt64.size` unless a growth has panicked.  A start that then succeeds leaves the pool
      running with as many workers.  If there are any, every stop does its work (in runs, where no
      observer panics); if there are none and something is queued, a stop never returns. -/
theorem started_as_planned {name : String} {faults faults' : Sync.Faults} {made : List Note}
    {pool : State} {before : List Move}
    (hcreate : create name size faults arithmetic = (made, faults', .ok pool))
    (hbefore : pool.tenure before = some s) (hstart : .order .start ∉ before) :
    (arithmetic = .checked ∨ size.toNat + askedFor before < UInt64.size →
      ∀ early late m, before = early ++ late → pool.tenure early = some m →
        0 < m.size.toNat ∧ m.size ≤ s.size) ∧
    (s.isIdle = true →
      s.size = (growths before).foldl arithmetic.grown size ∧
      (arithmetic = .wrapping ∨ size.toNat + askedFor before < UInt64.size →
        s.size.toNat = (size.toNat + askedFor before) % UInt64.size) ∧
      ∀ starting s', (s.order .start).tenure starting = some s' →
        (∀ order, Move.order order ∉ starting) →
        s'.activity? s.nextThread = some (.finished (.ordered (.ok ()))) →
        s'.running = true ∧ s'.size = s.size ∧ s'.workers.length = s.size.toNat ∧
        (s.size ≠ 0 → ∀ notes,
          pool.run [] (before ++ .order .start :: starting) = some (s', notes) → s'.Drains notes) ∧
        (s.size = 0 → s'.queued ≠ [] → s'.Strands)) := by
  have howned := owned_create hcreate
  have hnew := planning_create hcreate
  constructor
  · rintro hroom early late m rfl hearly
    rw [tenure_append, hearly] at hbefore
    have hlate : m.tenure late = some s := hbefore
    obtain ⟨carried₁, left₁, h₁, -, heq₁⟩ :=
      hnew.tenure howned (mt (List.mem_append_left _) hstart) hearly
    obtain ⟨carried₂, left₂, h₂, hle, heq₂⟩ :=
      h₁.tenure (howned.tenure hearly) (mt (List.mem_append_right _) hstart) hlate
    -- what has been carried out at the end is among what was asked for
    have hsum : carried₂.sum + left₂.sum = askedFor (early ++ late) := by
      rw [← List.sum_append, heq₂, heq₁, askedFor, growths_append]
      rfl
    have hroom₂ : arithmetic = .checked ∨ size.toNat + carried₂.sum < UInt64.size :=
      hroom.imp_right fun hlt => by omega
    have hm : m.size ≤ s.size := by
      rw [h₁.size, h₂.size]
      exact Arithmetic.foldl_grown_le hle hroom₂
    have hfirst : size ≤ m.size := by
      rw [h₁.size]
      refine Arithmetic.le_foldl_grown carried₁ (hroom₂.imp_right fun hlt => ?_)
      have hless : carried₁.sum ≤ carried₂.sum := hle.sublist.sum_le_sum fun _ _ => Nat.zero_le _
      omega
    exact ⟨Nat.lt_of_lt_of_le (toNat_pos_of_create hcreate) (UInt64.le_iff_toNat_le.mp hfirst), hm⟩
  · intro hidle
    have hs := howned.tenure hbefore
    obtain ⟨carried, left, hplanning, -, heq⟩ := hnew.tenure howned hstart hbefore
    have hleft := hplanning.idle (not_order_of_isIdle hidle)
    have hcarried : carried = growths before := by rwa [hleft, List.append_nil] at heq
    have hsize : s.size = (growths before).foldl arithmetic.grown size :=
      hcarried ▸ hplanning.size
    refine ⟨hsize, fun hsum => ?_, ?_⟩
    · rw [hsize]
      exact Arithmetic.toNat_foldl_grown _ hsum
    · intro starting s' hstarting hnot hreturned
      obtain ⟨hrunning, hmeant, hcounted, hidle'⟩ :=
        hplanning.opens hs hidle hnot hstarting hreturned
      refine ⟨hrunning, hmeant, hcounted, ?_, ?_⟩
      · intro hsize notes hrun
        refine ((sane_create hcreate).run hrun).drains hidle' fun hnobody => hsize ?_
        rw [hnobody] at hcounted
        exact UInt64.toNat_inj.mp hcounted.symm
      · intro hsize
        rw [hsize] at hcounted
        have hs' := (hs.order hidle _).tenure hstarting
        exact hs'.strands hidle' (List.length_eq_zero_iff.mp hcounted) hrunning

/-- A pool for one worker is to grow by two. -/
def growsByTwo : List Move := [.order (.grow 2), .step 0 {}]

/-- The start makes three workers. -/
def threeMade : List Move := List.replicate 6 (.step 1 {})

/-- The pool after the growth. -/
def grownPool : State := (lonePool.tenure growsByTwo).getD lonePool

/-- The pool after the start, and what has been left behind. -/
def threePool : State × List Note :=
  (lonePool.run [] (growsByTwo ++ .order .start :: threeMade)).getD (lonePool, [])

/-- A pool for one worker that grows by two before it is started. -/
theorem started_as_planned_three :
    lonePool.tenure growsByTwo = some grownPool ∧ lonePool.size ≤ grownPool.size ∧
    grownPool.size.toNat = 3 ∧ threePool.1.running = true ∧ threePool.1.workers.length = 3 ∧
    threePool.1.Drains threePool.2 := by
  have hbefore : lonePool.tenure growsByTwo = some grownPool :=
    (Option.getD_of_ne_none (by decide) _).symm
  have hwhole : lonePool.run [] (growsByTwo ++ .order .start :: threeMade) = some threePool :=
    (Option.getD_of_ne_none (by decide) _).symm
  have hcreate : create "pool" 1 [] .checked = ((create "pool" 1 []).1, [], .ok lonePool) := rfl
  have hstart : Move.order .start ∉ growsByTwo := by simp [growsByTwo]
  have hnot : ∀ order, Move.order order ∉ threeMade := by simp [threeMade]
  have hstarting : (grownPool.order .start).tenure threeMade = some threePool.1 := rfl
  obtain ⟨hgrows, hplanned⟩ := started_as_planned hcreate hbefore hstart
  obtain ⟨-, hsum, hstarted⟩ := hplanned (by decide)
  obtain ⟨hrunning, -, hcounted, hdrains, -⟩ := hstarted threeMade threePool.1 hstarting hnot rfl
  have hthree : grownPool.size.toNat = 3 := hsum (Or.inr (by decide))
  exact ⟨hbefore, (hgrows (Or.inl rfl) [] growsByTwo lonePool rfl rfl).2, hthree, hrunning,
    hcounted.trans hthree, hdrains (by decide) threePool.2 hwhole⟩

/-- The first item of a pool without workers, for a task that does nothing. -/
def chore : Item := ⟨1, .mk (.numbered 0) .closure none [] .returns, none⟩

/-- A pool for one worker is to grow by the largest 64-bit count. -/
def growsToNothing : List Move := [.order (.grow 18446744073709551615), .step 0 {}]

/-- The pool is started and the item submitted. -/
def choreSubmitted : List Move :=
  [.step 1 {}, .step 1 {}, .step 1 {}, .make chore.job, .submit chore, .step 2 {}, .step 2 {}]

/-- A new pool for one worker, whose sums wrap. -/
def wrappingPool : State := { lonePool with arithmetic := .wrapping }

/-- The pool after the growth. -/
def wrappedPool : State := (wrappingPool.tenure growsToNothing).getD wrappingPool

/-- The pool with the item in its queue. -/
def strandedPool : State := ((wrappedPool.order .start).tenure choreSubmitted).getD wrappingPool

/-- The same growth where sums are checked. -/
def refusedPool : State := (lonePool.tenure growsToNothing).getD lonePool

/-- **THE SUM WRAPS TO ZERO**: the number of workers falls from one to zero.  The start succeeds without
    a worker, an item is accepted, and a stop waits for ever for a worker to take it.  Where sums are
    checked the growth panics and the pool keeps its number. -/
theorem planned_to_nothing :
    create "pool" 1 [] .wrapping = ((create "pool" 1 []).1, [], .ok wrappingPool) ∧
    wrappingPool.tenure growsToNothing = some wrappedPool ∧
    (wrappingPool.size = 1 ∧ wrappedPool.size = 0 ∧ wrappedPool.isIdle = true) ∧
    (wrappedPool.order .start).tenure choreSubmitted = some strandedPool ∧
    strandedPool.activity? 1 = some (.finished (.ordered (.ok ()))) ∧
    (strandedPool.running = true ∧ strandedPool.workers = []) ∧
    strandedPool.activity? 2 = some (.finished (.submitted chore true)) ∧
    (strandedPool.queued = [1] ∧ strandedPool.Strands) ∧
    lonePool.tenure growsToNothing = some refusedPool ∧
    refusedPool.activity? 0 = some (.finished (.panicked "attempt to add with overflow")) ∧
    refusedPool.size = 1 := by
  have hcreate : create "pool" 1 [] .wrapping = ((create "pool" 1 []).1, [], .ok wrappingPool) := rfl
  have hgrows : wrappingPool.tenure growsToNothing = some wrappedPool :=
    (Option.getD_of_ne_none (by decide) _).symm
  have hstarts : (wrappedPool.order .start).tenure choreSubmitted = some strandedPool :=
    (Option.getD_of_ne_none (by decide) _).symm
  have hrefused : lonePool.tenure growsToNothing = some refusedPool :=
    (Option.getD_of_ne_none (by decide) _).symm
  have howned : strandedPool.Owned :=
    (((owned_create hcreate).tenure hgrows).order (by decide) .start).tenure hstarts
  exact ⟨hcreate, hgrows, ⟨rfl, by decide, by decide⟩, hstarts, rfl, ⟨by decide, by decide⟩, rfl,
    ⟨by decide, howned.strands (by decide) (by decide) (by decide) (by decide)⟩, hrefused, rfl,
    by decide⟩

end State

end PooledServer.Pool
