import PooledServer.Proofs.Queue.Wakeup
import PooledServer.Proofs.Queue.Progress

/-!
# Who has asked for what

    Seen from its users a monitor is its contents and the request that each thread inside has made.  A
    call adds a request, an answer takes one away, and nothing else changes them: not waiting, not a
    signal, not a wake-up without one. -/

namespace PooledServer.Queue

variable {α : Type}

namespace Monitor

/-- What thread `t` has asked for and not yet been answered. -/
def asked (m : Monitor α) (t : ThreadId) : Option (Request α) :=
  (m.caller? t).map (·.request)

/-- A thread that is not inside may call. -/
theorem call_eq_some {m : Monitor α} {t : ThreadId} (h : m.asked t = none) (r : Request α) :
    m.call t r = some { m with callers := m.callers ++ [⟨t, r, .entering⟩] } := by
  simp only [call]
  rw [Option.map_eq_none_iff.mp h]

theorem asked_map {m : Monitor α} {f : Caller α → Caller α} (hthread : ∀ c, (f c).thread = c.thread)
    (hrequest : ∀ c, (f c).request = c.request) (contents : Contents α) (mutex : Sync.Mutex) :
    (⟨contents, mutex, m.callers.map f⟩ : Monitor α).asked = m.asked := by
  funext u
  have hfind := Keyed.find?_map (f := Caller.thread) (l := m.callers) hthread u
  simp only [asked, caller?]
  rw [hfind, Option.map_map]
  congr 1
  exact funext hrequest

theorem asked_others (m : Monitor α) (t : ThreadId) (contents : Contents α) (mutex : Sync.Mutex) :
    (⟨contents, mutex, m.others t⟩ : Monitor α).asked = Function.update m.asked t none := by
  funext u
  have hfind := Keyed.find?_filter_ne (f := Caller.thread) (l := m.callers) (k := t) u
  simp only [asked, caller?, others]
  rw [hfind]
  by_cases hu : u = t
  · rw [if_pos hu, hu, Function.update_self]
    rfl
  · rw [if_neg hu, Function.update_of_ne hu]
    rfl

/-- A call adds the request of its thread and changes nothing else. -/
theorem asked_call {m m' : Monitor α} {t : ThreadId} {r : Request α} (h : m.call t r = some m') :
    m'.asked = Function.update m.asked t (some r) ∧ m'.contents = m.contents := by
  simp only [call] at h
  split at h
  · cases h
  · rename_i hnone
    cases Option.some.inj h
    refine ⟨?_, rfl⟩
    funext u
    unfold asked caller?
    rw [List.find?_append]
    by_cases hu : u = t
    · subst hu
      rw [Function.update_self, show m.callers.find? (·.thread == u) = none from hnone]
      simp
    · rw [Function.update_of_ne hu]
      have hne : ((t == u) = true) = False := by simpa using fun h => hu h.symm
      simp [hne]

/-- A wake-up without a signal changes no request. -/
theorem asked_wakeUp {m m' : Monitor α} {t : ThreadId} (h : m.wakeUp t = some m') :
    m'.asked = m.asked ∧ m'.contents = m.contents := by
  simp only [wakeUp] at h
  split at h
  · cases Option.some.inj h
    refine ⟨asked_map ?_ ?_ _ _, rfl⟩ <;> intro c <;> split <;> rfl
  · cases h

/-- Nobody holds the lock, and whoever waits has a reason to. -/
structure Sound (m : Monitor α) : Prop where
  attentive : m.Attentive
  free : m.mutex.holder = none

/-- Every move keeps a monitor sound. -/
theorem Sound.move {m m' : Monitor α} {move : Move α} {shown : Shown α} (hm : m.Sound)
    (h : m.move move = some (m', shown)) : m'.Sound :=
  ⟨hm.attentive.move h, holder_eq_none hm.free h⟩

theorem Sound.call {m m' : Monitor α} {t : ThreadId} {r : Request α} (hm : m.Sound)
    (h : m.call t r = some m') : m'.Sound :=
  hm.move (show m.move (.call t r) = some (m', {}) from Option.map_eq_some_iff.mpr ⟨m', h, rfl⟩)

theorem Sound.wakeUp {m m' : Monitor α} {t : ThreadId} (hm : m.Sound)
    (h : m.wakeUp t = some m') : m'.Sound :=
  hm.move (show m.move (.wakeUp t) = some (m', {}) from Option.map_eq_some_iff.mpr ⟨m', h, rfl⟩)

/-- A turn that ends in a wait. -/
structure Waited (m : Monitor α) (t : ThreadId) (r : Request α) (m' : Monitor α) : Prop where
  asked_self : m.asked t = some r
  reason : ∃ q, r.Waits m.contents q
  contents : m'.contents = m.contents
  asked : m'.asked = m.asked
  sound : m.Sound → m'.Sound

/-- A turn that ends in an answer. -/
structure Answered (m : Monitor α) (t : ThreadId) (r : Request α) (m' : Monitor α)
    (answer : Answer α) : Prop where
  asked_self : m.asked t = some r
  leaves : ∃ sent, r.Leaves true m.contents m'.contents answer sent
  asked : m'.asked = Function.update m.asked t none
  sound : m.Sound → m'.Sound

/-- With primitives that work a turn waits or answers. -/
theorem waited_or_answered {m m' : Monitor α} {t : ThreadId} {luck : Luck} {shown : Shown α}
    (hlock : luck.lock = true) (hwait : luck.wait = true)
    (h : m.step t luck = some (m', shown)) :
    ∃ r, (m.Waited t r m' ∧ shown = {}) ∨
      ∃ answer reports, m.Answered t r m' answer ∧ shown = ⟨some ⟨t, r, answer⟩, reports⟩ := by
  have hsound : m.Sound → m'.Sound := fun hm =>
    hm.move (show m.move (.turn t luck) = some (m', shown) from h)
  cases stepped_of_step h with
  | turnedAway c hc hs hl => exact absurd (hl.symm.trans hlock) Bool.false_ne_true
  | waits c hc hs mutex free q houtcome =>
      refine ⟨c.request, Or.inl ⟨⟨?_, ⟨q, (Request.waits_of_outcome houtcome).2⟩, rfl, ?_,
        hsound⟩, rfl⟩⟩
      · exact congrArg (Option.map _) hc
      · exact asked_map (Caller.waitAs_thread t q) (Caller.waitAs_request t q) _ _
  | leaves c hc hs mutex free contents answer sent reports callers houtcome hsent =>
      rw [hwait] at houtcome
      obtain ⟨f, rfl, hf⟩ := signals_eq_map hsent
      refine ⟨c.request, Or.inr ⟨answer, reports,
        ⟨?_, ⟨sent, Request.leaves_of_outcome houtcome⟩, ?_, hsound⟩, rfl⟩⟩
      · exact congrArg (Option.map _) hc
      · rw [← asked_others m t m.contents m.mutex]
        exact asked_map (m := ⟨m.contents, m.mutex, m.others t⟩) (fun c => (hf c).thread_eq)
          (fun c => (hf c).request_eq) contents mutex

/-! ## What the others see -/

/-- What thread `t` can do to a monitor, as the other threads see it. -/
structure Touched (t : ThreadId) (m m' : Monitor α) : Prop where
  sound : m.Sound → m'.Sound
  asked : ∀ u, u ≠ t → m'.asked u = m.asked u
  closed : m.contents.running = false → m'.contents.running = false

theorem Touched.refl (t : ThreadId) (m : Monitor α) : m.Touched t m :=
  ⟨id, fun _ _ => rfl, id⟩

theorem touched_of_call {m m' : Monitor α} {t : ThreadId} {r : Request α}
    (h : m.call t r = some m') : m.Touched t m' := by
  obtain ⟨hasked, hcontents⟩ := asked_call h
  refine ⟨fun hm => hm.call h, fun u hu => ?_, fun hclosed => hcontents ▸ hclosed⟩
  rw [hasked, Function.update_of_ne hu]

theorem touched_of_wakeUp {m m' : Monitor α} {t : ThreadId} (h : m.wakeUp t = some m')
    (u : ThreadId) : m.Touched u m' := by
  obtain ⟨hasked, hcontents⟩ := asked_wakeUp h
  exact ⟨fun hm => hm.wakeUp h, fun _ _ => congrFun hasked _, fun hclosed => hcontents ▸ hclosed⟩

theorem Waited.touched {m m' : Monitor α} {t : ThreadId} {r : Request α} (h : m.Waited t r m') :
    m.Touched t m' :=
  ⟨h.sound, fun _ _ => congrFun h.asked _, fun hclosed => h.contents ▸ hclosed⟩

theorem Answered.touched {m m' : Monitor α} {t : ThreadId} {r : Request α} {answer : Answer α}
    (h : m.Answered t r m' answer) : m.Touched t m' := by
  refine ⟨h.sound, fun u hu => ?_, fun hclosed => ?_⟩
  · rw [h.asked, Function.update_of_ne hu]
  · obtain ⟨sent, hleaves⟩ := h.leaves
    rcases hleaves.running_eq with hsame | ⟨hnow, -⟩
    · exact hsame.trans hclosed
    · exact hnow

/-! ## What the answers mean -/

namespace Answered

variable {m m' : Monitor α} {t : ThreadId} {answer : Answer α}

/-- An open queue accepts an item and a closed one hands it back. -/
theorem add {item : α} (h : m.Answered t (.add item) m' answer) :
    (answer = .added ∧ m.contents.running = true ∧
      m'.contents = { m.contents with items := m.contents.items ++ [item] }) ∨
    answer = .rejected item ∧ m.contents.running = false ∧ m'.contents = m.contents := by
  obtain ⟨sent, hl⟩ := h.leaves
  generalize hc : m'.contents = contents at hl
  cases hl with
  | added item hr => exact Or.inl ⟨rfl, hr, rfl⟩
  | rejected item hr => exact Or.inr ⟨rfl, hr, rfl⟩

/-- A blocking take gets the first item, or the news that the queue is closed. -/
theorem take (h : m.Answered t (.take true) m' answer) :
    (∃ item, answer = .taken item ∧ m.contents.items = item :: m'.contents.items ∧
      m.contents.running = true ∧ m'.contents.running = true) ∨
    answer = .notRunning ∧ m.contents.running = false ∧ m'.contents = m.contents := by
  obtain ⟨sent, hl⟩ := h.leaves
  generalize hc : m'.contents = contents at hl
  cases hl with
  | tookLast block item hr hi => exact Or.inl ⟨item, rfl, hi, hr, hr⟩
  | tookFirst block item next rest hr hi => exact Or.inl ⟨item, rfl, hi, hr, hr⟩
  | foundClosed block hr => exact Or.inr ⟨rfl, hr, rfl⟩
  | takeFailed hr hi hw => exact absurd hw (fun h => nomatch h)

theorem size (h : m.Answered t .size m' answer) :
    (∃ n, answer = .count n) ∧ m'.contents = m.contents := by
  obtain ⟨sent, hl⟩ := h.leaves
  generalize hc : m'.contents = contents at hl
  cases hl with
  | measured => exact ⟨⟨_, rfl⟩, rfl⟩

theorem isRunning (h : m.Answered t .isRunning m' answer) :
    answer = .flag m.contents.running ∧ m'.contents = m.contents := by
  obtain ⟨sent, hl⟩ := h.leaves
  generalize hc : m'.contents = contents at hl
  cases hl with
  | told => exact ⟨rfl, rfl⟩

/-- A queue that is shut down keeps its items and is closed from then on. -/
theorem shutDown (h : m.Answered t .shutDown m' answer) :
    m'.contents.running = false ∧ m'.contents.items = m.contents.items := by
  obtain ⟨sent, hl⟩ := h.leaves
  generalize hc : m'.contents = contents at hl
  cases hl with
  | closed hr => exact ⟨rfl, rfl⟩
  | closedBefore hr => exact ⟨hr, rfl⟩

/-- A queue that runs and drains is closed when no item is left. -/
theorem shutDownWhenDrained (h : m.Answered t .shutDownWhenDrained m' answer) :
    m'.contents.running = false ∧ m'.contents.items = m.contents.items ∧
      (m.contents.running = true → m.contents.items = []) := by
  obtain ⟨sent, hl⟩ := h.leaves
  generalize hc : m'.contents = contents at hl
  cases hl with
  | drained hr hi => exact ⟨rfl, rfl, fun _ => hi⟩
  | drainFailed hr hi hw => exact absurd hw (fun h => nomatch h)
  | drainedBefore hr => exact ⟨hr, rfl, fun h => absurd (h.symm.trans hr) (fun h => nomatch h)⟩

end Answered

end Monitor

end PooledServer.Queue
