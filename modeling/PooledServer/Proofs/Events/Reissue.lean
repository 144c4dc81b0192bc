import PooledServer.Proofs.Events.Places

/-!
# Numbers that are given out again

    The application may close the number of a connection behind the server's back, and the system may
    give the number to somebody else while the server still has the socket.  Sockets know their numbers
    only, so whoever drops such a stale socket closes the number of its new owner.

    A stage closes no other number than that of the one socket that it drops.  As long as a number is
    given out only when the server has no socket of it (`State.reissues`), the number of a socket is
    closed or stands for its own connection, and at most one socket has it (`State.Apart`).  So numbers
    that are closed from outside harm nobody (`State.harms_nobody`), whoever closes them and whenever. -/

namespace PooledServer.Events

open Net

namespace Stage

/-- The stages that forget a number, and those of a completion that has the lock and keeps or abandons
    its socket. -/
def closesNothing (luck : Luck) : Stage → Bool
  | .forget _ | .unwatchForgotten .. | .comeBack _ | .release _ false => true
  | .park .. => luck.lock
  | _ => false

end Stage

namespace State

/-- The server has no socket of `d`. -/
def lacks (s : State) (d : Descriptor) : Bool := s.holdings.all (·.2.descriptor != d)

/-- The rule that a number, unless it is spoiled, is given out only when the server has no socket of it.
    Any number may be closed at any time. -/
def reissues (spoiled : Descriptor → Bool) (s : State) : Move → Bool
  | .step t luck =>
    match s.agenda? t, luck.arrival with
    | some (.accept :: _), .connection d .. => spoiled d || s.lacks d
    | _, _ => true
  | .openOther d _ => spoiled d || s.lacks d
  | _ => true

/-- A number that is not spoiled has one socket at most, and is closed or stands for its connection. -/
structure Apart (spoiled : Descriptor → Bool) (s : State) : Prop where
  numbered : s.Numbered
  table : s.table.Sound
  once : ∀ d, spoiled d = false → s.held.countP (·.1 = d) ≤ 1
  standing : ∀ x ∈ s.held, spoiled x.1 = false →
    s.kernel.file? x.1 = none ∨ s.kernel.file? x.1 = some (.connection x.2)

variable {s s' s₁ : State} {t : ThreadId} {luck : Luck} {stage : Stage} {next rest : List Stage}
  {listener d : Descriptor} {move : Move} {moves : List Move} {notes : List Note} {x y : Handle}
  {spoiled : Descriptor → Bool}

theorem ne_of_lacks (h : s.lacks d = true) : ∀ x ∈ s.held, x.1 ≠ d := by
  intro x hx
  rw [← coe_holdings] at hx
  obtain ⟨⟨p, socket⟩, hmem, rfl⟩ := List.mem_map.mp (Multiset.mem_coe.mp hx)
  exact bne_iff_ne.mp (List.all_eq_true.mp h _ hmem)

/-! ## What a stage does to sockets and numbers -/

/-- A socket is given up and its number left alone. -/
theorem Carries.gives_up (h : s.Carries luck stage s₁ next) {socket : Socket}
    (hgives : stage.abandoned? = some socket) :
    s.stored + stage.handles = s₁.stored + load next + {socket.handle} ∧
      s₁.kernel.file? = s.kernel.file? := by
  cases h with
  | leaves d other =>
      cases hgives
      refine ⟨?_, s.kernel.file?_unwatchIf luck d⟩
      show s.stored + {socket.handle} = s.stored + 0 + {socket.handle}
      rw [add_zero]
  | abandons other =>
      cases hgives
      refine ⟨?_, rfl⟩
      show s.stored + {socket.handle} = s.stored + 0 + {socket.handle}
      rw [add_zero]
  | _ => exact nomatch hgives

/-- A stage shifts sockets and numbers together, or it gives a socket up. -/
theorem Apart.shift_held (ha : s.Apart spoiled) (here : s.agenda? t = some (stage :: rest))
    (h : s.Carries luck stage s₁ next) :
    Shift s (s₁.setAgenda t (next ++ rest)) s.held (s₁.setAgenda t (next ++ rest)).held ∨
      (∃ x, s.held = (s₁.setAgenda t (next ++ rest)).held + {x}) ∧
        s₁.kernel.file? = s.kernel.file? := by
  obtain ⟨c, hheld, hheld'⟩ := ha.numbered.exists_rest here h.threads.1 next
  cases hgives : stage.abandoned? with
  | none =>
      rw [hheld, hheld']
      exact Or.inl ((h.shift ha.table hgives).frame t (next ++ rest) c)
  | some socket =>
      obtain ⟨hsplit, hfiles⟩ := h.gives_up hgives
      refine Or.inr ⟨⟨socket.handle, ?_⟩, hfiles⟩
      rw [hheld, hheld', hsplit, add_right_comm]

/-- A stage closes no number but that of the socket that it drops. -/
theorem Apart.closes_dropped (ha : s.Apart spoiled) (here : s.agenda? t = some (stage :: rest))
    (h : s.Carries luck stage s₁ next) {f : File} (hfile : s.kernel.file? d = some f)
    (hgone : s₁.kernel.file? d ≠ some f) :
    ∃ n, s.held = (s₁.setAgenda t (next ++ rest)).held + {(d, n)} := by
  rcases ha.shift_held here h with hshift | ⟨-, hfiles⟩
  · cases hshift with
    | passes held files count =>
        have hsame : s₁.kernel.file? = s.kernel.file? := files
        rw [hsame] at hgone
        exact absurd hfile hgone
    | closes x held files count =>
        have hclosed : s₁.kernel.file? = Function.update s.kernel.file? x.1 none := files
        by_cases hd : d = x.1
        · exact ⟨x.2, by rw [hd]; exact held⟩
        · rw [hclosed, Function.update_of_ne hd] at hgone
          exact absurd hfile hgone
    | joins c nonneg free held files count =>
        have hopened : s₁.kernel.file? = Function.update s.kernel.file? c _ := files
        by_cases hd : d = c
        · rw [hd, free] at hfile
          exact nomatch hfile
        · rw [hopened, Function.update_of_ne hd] at hgone
          exact absurd hfile hgone
  · rw [hfiles] at hgone
    exact absurd hfile hgone

/-! ## Every move keeps sockets apart -/

/-- Where one number is closed, every number stands for what it stood for or for nothing. -/
theorem same_or_closed {k k' : Kernel} {c : Descriptor}
    (h : k'.file? = Function.update k.file? c none) (d : Descriptor) :
    k'.file? d = k.file? d ∨ k'.file? d = none := by
  rw [h]
  by_cases hd : d = c
  · rw [hd, Function.update_self]
    exact Or.inr rfl
  · rw [Function.update_of_ne hd]
    exact Or.inl rfl

/-- Sockets go and numbers are closed, and nothing else changes. -/
theorem Apart.shrinks (ha : s.Apart spoiled) (numbered : s'.Numbered) (table : s'.table.Sound)
    (held : s'.held ≤ s.held)
    (files : ∀ d, s'.kernel.file? d = s.kernel.file? d ∨ s'.kernel.file? d = none) :
    s'.Apart spoiled := by
  refine ⟨numbered, table, ?_, ?_⟩
  · intro d hd
    exact (Multiset.countP_le_of_le _ held).trans (ha.once d hd)
  · intro x hx hspoiled
    rcases files x.1 with hsame | hnone
    · rw [hsame]
      exact ha.standing x (Multiset.mem_of_le held hx) hspoiled
    · exact Or.inl hnone

/-- A number is given out that is spoiled or that the server has no socket of; perhaps it gets one. -/
theorem Apart.gives_out (ha : s.Apart spoiled) (numbered : s'.Numbered) (table : s'.table.Sound)
    {f : File} {new : Multiset Handle} (held : s'.held = s.held + new) (few : new.card ≤ 1)
    (own : ∀ x ∈ new, x.1 = d ∧ f = .connection x.2)
    (files : s'.kernel.file? = Function.update s.kernel.file? d (some f))
    (hfree : spoiled d = true ∨ s.lacks d = true) : s'.Apart spoiled := by
  have hlacks : spoiled d = false → ∀ x ∈ s.held, x.1 ≠ d := fun hspoiled =>
    ne_of_lacks (hfree.resolve_left (ne_true_of_eq_false hspoiled))
  refine ⟨numbered, table, fun c hc => ?_, fun x hx hspoiled => ?_⟩
  · rw [held, Multiset.countP_add]
    by_cases hsame : c = d
    · subst hsame
      have hold : s.held.countP (·.1 = c) = 0 := Multiset.countP_eq_zero.mpr (hlacks hc)
      rw [hold, zero_add]
      exact (Multiset.countP_le_card _ _).trans few
    · have hnew : new.countP (·.1 = c) = 0 :=
        Multiset.countP_eq_zero.mpr fun x hx heq => hsame (heq.symm.trans (own x hx).1)
      rw [hnew, add_zero]
      exact ha.once c hc
  · rw [held] at hx
    rw [files]
    rcases Multiset.mem_add.mp hx with hold | hnew
    · have hne : x.1 ≠ d := by
        rintro rfl
        exact hlacks hspoiled x hold rfl
      rw [Function.update_of_ne hne]
      exact ha.standing x hold hspoiled
    · obtain ⟨hd, hf⟩ := own x hnew
      rw [hd, Function.update_self, hf]
      exact Or.inr rfl

/-- A connection that is accepted under the rule gets a number that may be given out. -/
theorem free_of_accept (hrule : reissues spoiled s (.step t luck) = true)
    (here : s.agenda? t = some (.accept :: rest)) (h : s.step t luck = some (s', notes))
    (hgrows : s'.stats.accepted = s.stats.accepted + 1) :
    ∃ d, (spoiled d = true ∨ s.lacks d = true) ∧
      s'.kernel.file? = Function.update s.kernel.file? d (some (.connection s.stats.accepted)) := by
  simp only [step, here] at h
  split at h
  · obtain ⟨rfl, -⟩ := Prod.mk.inj (Option.some.inj h)
    have hran : (s.onAccept luck.arrival).1.stats.accepted = s.stats.accepted + 1 := hgrows
    show ∃ d, _ ∧ (s.onAccept luck.arrival).1.kernel.file? = _
    simp only [reissues, here] at hrule
    cases harrival : luck.arrival with
    | connection d peer blocking options =>
        rw [harrival] at hrule
        exact ⟨d, Bool.or_eq_true_iff.mp hrule, Kernel.file?_openFile⟩
    | none | interrupted | failed =>
        rw [harrival] at hran
        exact absurd hran (Nat.ne_of_lt (Nat.lt_succ_self _))
  · cases h

theorem Apart.carries (ha : s.Apart spoiled) (hrule : reissues spoiled s (.step t luck) = true)
    (here : s.agenda? t = some (stage :: rest)) (done : s.Carries luck stage s₁ next)
    (h : s.step t luck = some (s₁.setAgenda t (next ++ rest), notes)) :
    (s₁.setAgenda t (next ++ rest)).Apart spoiled := by
  have hnumbered : (s₁.setAgenda t (next ++ rest)).Numbered := (done.numbered ha.numbered).setAgenda
  have htable : s₁.table.Sound := done.table_sound ha.table
  rcases ha.shift_held here done with hshift | ⟨⟨x, held⟩, hfiles⟩
  · cases hshift with
    | passes held files count =>
        exact ha.shrinks hnumbered htable (le_of_eq held) fun d => Or.inl (congrFun files d)
    | closes x held files count =>
        exact ha.shrinks hnumbered htable (held ▸ Multiset.le_add_right _ _) (same_or_closed files)
    | joins d nonneg free held files count =>
        obtain ⟨rfl, -⟩ := done.of_grows count
        obtain ⟨c, hfree, hfiles⟩ := free_of_accept hrule here h count
        -- the number that was free and now stands for a connection is that of the arrival
        obtain rfl : d = c := by
          by_contra hne
          have hopened := congrFun (files.symm.trans hfiles) d
          rw [Function.update_self, Function.update_of_ne hne, free] at hopened
          exact nomatch hopened
        refine ha.gives_out hnumbered htable held (le_of_eq (Multiset.card_singleton _)) ?_ files hfree
        intro x hx
        rw [Multiset.mem_singleton.mp hx]
        exact ⟨rfl, rfl⟩
  · exact ha.shrinks hnumbered htable (held ▸ Multiset.le_add_right _ _) fun d =>
      Or.inl (congrFun hfiles d)

/-- **EVERY MOVE WITHIN THE RULE KEEPS SOCKETS APART**. -/
theorem Apart.keeps (ha : s.Apart spoiled) (hrule : reissues spoiled s move = true)
    (h : s.move move = some (s', notes)) : s'.Apart spoiled := by
  cases goes_of_move h with
  | carries here done => exact ha.carries hrule here done h
  | receives events idle =>
      refine ha.shrinks ha.numbered.setAgenda ha.table ?_ fun d => Or.inl rfl
      exact le_of_eq (ha.numbered.held_batch idle events)
  | completes place r isOpen pending kept =>
      have hnumbered : State.Numbered { s with kept := s.kept.eraseIdx place } :=
        ⟨ha.numbered.distinct, ha.numbered.below⟩
      refine ha.shrinks hnumbered.launch ha.table ?_ fun d => Or.inl rfl
      exact le_of_eq (held_completed kept isOpen pending)
  | steals c =>
      exact ha.shrinks ⟨ha.numbered.distinct, ha.numbered.below⟩ ha.table (le_refl s.held)
        (same_or_closed Kernel.file?_close)
  | opens c number free =>
      exact ha.gives_out ⟨ha.numbered.distinct, ha.numbered.below⟩ ha.table (add_zero s.held).symm
        (Nat.zero_le 1) (fun x hx => absurd hx (Multiset.notMem_zero x)) Kernel.file?_openFile
        (Bool.or_eq_true_iff.mp hrule)

theorem apart_new (listener : Descriptor) : (State.new listener).Apart spoiled := by
  have hs := sound_new listener
  exact ⟨hs.numbered, hs.table, fun d hd => Nat.zero_le 1, fun x hx => absurd hx (Multiset.notMem_zero x)⟩

theorem apart_of_run (hrun : (State.new listener).run (reissues spoiled) moves = some s) :
    s.Apart spoiled :=
  run_keeps_moves (fun _ _ _ _ ha hrule h => ha.keeps hrule h) (apart_new listener) hrun

/-! ## What happens to the number of somebody else -/

/-- A number that is not spoiled has no second socket. -/
theorem Apart.unique (ha : s.Apart spoiled) (hspoiled : spoiled d = false) (hx : x ∈ s.held)
    (hy : y ∈ s.held) (hxd : x.1 = d) (hyd : y.1 = d) : y = x := by
  obtain ⟨others, hothers⟩ := Multiset.exists_cons_of_mem hx
  have honce := ha.once d hspoiled
  rw [hothers, Multiset.countP_cons_of_pos (p := fun z : Handle => z.1 = d) others hxd] at honce
  rw [hothers] at hy
  rcases Multiset.mem_cons.mp hy with heq | hmem
  · exact heq
  · have hpos : 0 < others.countP (·.1 = d) := Multiset.countP_pos.mpr ⟨y, hmem, hyd⟩
    omega

/-- A number that is not spoiled is open for the connection that the server has a socket of. -/
theorem Apart.connection_of_held (ha : s.Apart spoiled) (hmem : x ∈ s.held)
    (hspoiled : spoiled x.1 = false) {f : File} (hfile : s.kernel.file? x.1 = some f) :
    f = .connection x.2 := by
  rcases ha.standing x hmem hspoiled with hnone | hown
  · exact nomatch hnone.symm.trans hfile
  · exact Option.some.inj (hfile.symm.trans hown)

/-- **WHAT IS CLOSED IS THE NUMBER OF A SOCKET THAT IS DROPPED**, or it is closed from outside. -/
theorem Apart.closes_own (ha : s.Apart spoiled) (h : s.Goes move s') {f : File}
    (hfile : s.kernel.file? d = some f) (hgone : s'.kernel.file? d ≠ some f) :
    move = .steal d ∨
      ∃ n, s.held = s'.held + {(d, n)} ∧ (spoiled d = false → f = .connection n) := by
  cases h with
  | carries here done =>
      obtain ⟨n, hheld⟩ := ha.closes_dropped here done hfile hgone
      have hmem : (d, n) ∈ s.held := by
        rw [hheld]
        exact Multiset.mem_add.mpr (Or.inr (Multiset.mem_singleton_self _))
      exact Or.inr ⟨n, hheld, fun hspoiled => ha.connection_of_held hmem hspoiled hfile⟩
  | receives | completes => exact absurd hfile hgone
  | steals c =>
      by_cases hd : d = c
      · exact Or.inl (congrArg Move.steal hd.symm)
      · refine absurd (Eq.trans ?_ hfile) hgone
        show Kernel.file? (s.kernel.close c) d = _
        rw [Kernel.file?_close, Function.update_of_ne hd]
  | opens c number free =>
      have hd : d ≠ c := by
        rintro rfl
        exact nomatch free.symm.trans hfile
      refine absurd (Eq.trans ?_ hfile) hgone
      show Kernel.file? (s.kernel.openFile c _) d = _
      rw [Kernel.file?_openFile, Function.update_of_ne hd]

/-- A socket that comes back changes no entry but the one that waits under its number. -/
theorem Carries.entry?_of_park {socket : Socket} {isValid : Bool}
    (h : s.Carries luck (.park socket isValid) s₁ next)
    (hentry : s₁.table.entry? d ≠ s.table.entry? d) :
    d = socket.descriptor ∧ s.table.entry? d = some { isBusy := true } := by
  cases h with
  | parkBarred _ _ lock | turnsAway _ _ lock other => exact absurd rfl hentry
  | parks _ _ lock present usable =>
      by_cases hd : d = socket.descriptor
      · exact ⟨hd, hd ▸ present⟩
      · refine absurd ?_ hentry
        show Table.entry? (s.table.insert _ _) d = _
        rw [Table.entry?_insert, Function.update_of_ne hd]
  | retires _ _ lock present useless =>
      by_cases hd : d = socket.descriptor
      · exact ⟨hd, hd ▸ present⟩
      · refine absurd ?_ hentry
        show Table.entry? (s.table.erase _) d = _
        rw [Table.entry?_erase, Function.update_of_ne hd]

theorem Carries.file?_of_closesNothing (h : s.Carries luck stage s₁ next)
    (hcloses : stage.closesNothing luck = true) : s₁.kernel.file? = s.kernel.file? := by
  cases h with
  | forgets | forgetBarred | comesBack | parks | retires | turnsAway | abandons => rfl
  | leaves c socket => exact s.kernel.file?_unwatchIf luck c
  | parkBarred socket isValid lock => exact nomatch lock.symm.trans hcloses
  | _ => exact nomatch hcloses

/-- **NUMBERS THAT ARE CLOSED FROM OUTSIDE HARM NOBODY**, as long as a number is given out only when the
    server has no socket of it, spoiled numbers apart.  In every run within this rule, and whatever moves
    next:

    * a number is closed from outside, or because one socket of this number is dropped, and then it was
      the number of the socket's own connection;
    * a socket that comes back changes no entry but the one that waits under its number, while no other
      connection has this number and the server has no other socket of it;
    * forgetting a number closes nothing, and neither does a completion that finds its number closed.

    Only the second half of the first two parts is lost for a number that is spoiled. -/
theorem harms_nobody (hrun : (State.new listener).run (reissues spoiled) moves = some s)
    (h : s.move move = some (s', notes)) :
    (∀ d f, s.kernel.file? d = some f → s'.kernel.file? d ≠ some f →
      move = .steal d ∨
        ∃ n, s.held = s'.held + {(d, n)} ∧ (spoiled d = false → f = .connection n)) ∧
    (∀ t luck socket isValid rest, move = .step t luck →
      s.agenda? t = some (.park socket isValid :: rest) →
      (∀ d, s'.table.entry? d ≠ s.table.entry? d →
        d = socket.descriptor ∧ s.table.entry? d = some { isBusy := true }) ∧
      (spoiled socket.descriptor = false →
        (∀ x ∈ s.held, x.1 = socket.descriptor → x = socket.handle) ∧
          ∀ f, s.kernel.file? socket.descriptor = some f → f = .connection socket.connection)) ∧
    ∀ t luck stage rest, move = .step t luck → s.agenda? t = some (stage :: rest) →
      stage.closesNothing luck = true → s'.kernel.file? = s.kernel.file? := by
  have ha := apart_of_run hrun
  have hgoes := goes_of_move h
  refine ⟨fun d f hfile hgone => ha.closes_own hgoes hfile hgone, ?_, ?_⟩
  · rintro t luck socket isValid rest rfl here
    cases hgoes with
    | @carries _ _ stage _ next s₁ here' done =>
        obtain ⟨rfl, rfl⟩ := List.cons.inj (Option.some.inj (here.symm.trans here'))
        refine ⟨fun d hentry => done.entry?_of_park hentry, fun hspoiled => ?_⟩
        have hmem : socket.handle ∈ s.held :=
          mem_held_of_carried (mem_threads_of_agenda? here) (List.mem_cons_self ..) rfl
        exact ⟨fun x hx hd => ha.unique hspoiled hmem hx rfl hd,
          fun f hfile => ha.connection_of_held hmem hspoiled hfile⟩
  · rintro t luck stage rest rfl here hcloses
    cases hgoes with
    | carries here' done =>
        obtain ⟨rfl, rfl⟩ := List.cons.inj (Option.some.inj (here.symm.trans here'))
        exact done.file?_of_closesNothing hcloses

/-- A client's connection is handed to a handler.  Its number is closed from outside, the request comes
    back and finds this, and another client gets the number. -/
def numberComesBack : List Move :=
  clientJoins ++
    [.receive [⟨4, .readable⟩], .step 0 {}, .step 0 {}, .step 0 {}, .step 0 {}, .steal 4,
      .complete 0 true .empty, .step 1 {}, .step 1 {}, .step 1 {}, .receive [⟨3, .readable⟩],
      .step 0 {}, .step 0 { arrival := .connection 4 { address := .loopback, port := 4001 } none none }]

/-- A server that is about to track the second client. -/
def reusingServer : State :=
  ((State.new 3).run (reissues fun _ => false) numberComesBack).getD (State.new 3)

/-- The server after that. -/
def reusedServer : State × List Note := (reusingServer.move (.step 0 {})).getD (State.new 3, [])

theorem harms_nobody_reused :
    (State.new 3).run (reissues fun _ => false) numberComesBack = some reusingServer ∧
    reusingServer.move (.step 0 {}) = some reusedServer ∧
    reusingServer.kernel.file? 4 = some (.connection 1) ∧
    reusedServer.1.kernel.file? 4 = some (.connection 1) ∧
    ∀ d f, reusingServer.kernel.file? d = some f → reusedServer.1.kernel.file? d ≠ some f →
      Move.step 0 {} = .steal d ∨
        ∃ n, reusingServer.held = reusedServer.1.held + {(d, n)} ∧
          ((fun _ => false) d = false → f = .connection n) := by
  have hrun : (State.new 3).run (reissues fun _ => false) numberComesBack = some reusingServer :=
    (Option.getD_of_ne_none (by decide) _).symm
  have hmove : reusingServer.move (.step 0 {}) = some reusedServer :=
    (Option.getD_of_ne_none (by decide) _).symm
  exact ⟨hrun, hmove, by decide, by decide, (harms_nobody hrun hmove).1⟩

/-- A client's number is closed from outside while its socket is parked, and another client gets it. -/
def numberIsTaken : List Move :=
  clientJoins ++
    [.steal 4, .receive [⟨3, .readable⟩], .step 0 {},
      .step 0 { arrival := .connection 4 { address := .loopback, port := 4001 } none none }]

/-- A server that is about to track the second client under the number of the first. -/
def takenServer : State := ((State.new 3).run (fun _ _ => true) numberIsTaken).getD (State.new 3)

/-- The server after that. -/
def closingServer : State × List Note := (takenServer.move (.step 0 {})).getD (State.new 3, [])

/-- To put the second client into the table closes its own number, and no more: the stale socket that
    the first has left there is dropped. -/
theorem track_closes_newcomer :
    (State.new 3).run (fun _ _ => true) numberIsTaken = some takenServer ∧
    takenServer.move (.step 0 {}) = some closingServer ∧
    takenServer.kernel.file? 4 = some (.connection 1) ∧ closingServer.1.kernel.file? 4 = none ∧
    closingServer.1.placesOf 1 = [.entry 4] ∧ closingServer.1.placesOf 0 = [] :=
  ⟨(Option.getD_of_ne_none (by decide) _).symm, (Option.getD_of_ne_none (by decide) _).symm,
    by decide, by decide, by decide, by decide⟩

end State

end PooledServer.Events
