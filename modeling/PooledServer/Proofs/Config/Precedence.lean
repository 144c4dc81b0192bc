import Mathlib
import PooledServer.CommandLine.EchoServer

/-!
# Which text decides a setting

    Settings are overlaid: the file over what is there before, the environment over the file, and the
    options of the command line over both.  A text that cannot be read is passed over, so what it would
    have overridden stays, from whatever layer that is.

    `get_set_self` and `get_set_of_ne` say that a setting has a place of its own.  From them one overlay
    is known setting by setting (`get_overlay`), and so are its warnings (`reports_overlay`); a load is
    two overlays, and the options are a third that has no malformed texts left
    (`Grammar.Accepted.read`).  How the text of a file is read does not matter: the main result,
    `load_precedence`, takes what a reader has found in it.
-/

namespace PooledServer

namespace Config

variable {source : String} {lookup : Key → Option String} {c : Config} {j k : Key}

/-! ## The settings -/

theorem Key.mem_all (k : Key) : k ∈ Key.all := by cases k <;> decide

theorem Key.nodup_all : Key.all.Nodup := by decide

/-- No two settings have the same name in a file. -/
theorem Key.name_injective : Function.Injective Key.name := fun j k h =>
  List.inj_on_of_nodup_map (by decide : (Key.all.map Key.name).Nodup) j.mem_all k.mem_all h

/-- No two settings have the same environment variable. -/
theorem Key.variable_injective : Function.Injective Key.variable := fun j k h =>
  List.inj_on_of_nodup_map (by decide +kernel : (Key.all.map Key.variable).Nodup)
    j.mem_all k.mem_all h

@[simp] theorem get_set_self (c : Config) (k : Key) (v : k.Value) : (c.set k v).get k = v := by
  cases k <;> rfl

theorem get_set_of_ne (c : Config) {v : k.Value} (h : j ≠ k) : (c.set k v).get j = c.get j := by
  cases k <;> cases j <;> first | rfl | exact absurd rfl h

/-- One setting overridden, if there is a value to override it. -/
def override (c : Config) (k : Key) (v : Option k.Value) : Config := (v.map (c.set k)).getD c

theorem get_override_self {v : Option k.Value} : (c.override k v).get k = v.getD (c.get k) := by
  cases v with
  | none => rfl
  | some v => exact get_set_self c k v

theorem get_override_of_ne {v : Option k.Value} (h : j ≠ k) :
    (c.override k v).get j = c.get j := by
  cases v with
  | none => rfl
  | some v => exact get_set_of_ne c h

/-! ## One overlay -/

/-- The value of a setting by a text, if there is one and it can be read. -/
def Key.read? (k : Key) (text : Option String) : Option k.Value :=
  text.bind fun raw => (k.parse raw).toOption

/-- The warning about the text of a setting, if there is one and it cannot be read. -/
def complaint? (source : String) (lookup : Key → Option String) (k : Key) : Option Warning :=
  (lookup k).bind fun raw =>
    match k.parse raw with
    | .ok _ => none
    | .error reason => some ⟨source, k, reason⟩

theorem complaint?_eq_some {w : Warning} :
    complaint? source lookup k = some w ↔
      w.source = source ∧ w.key = k ∧
        ∃ raw, lookup w.key = some raw ∧ w.key.parse raw = .error w.reason := by
  unfold complaint?
  rw [Option.bind_eq_some_iff]
  constructor
  · rintro ⟨raw, hraw, hw⟩
    cases hparse : k.parse raw with
    | ok v =>
        rw [hparse] at hw
        cases hw
    | error reason =>
        rw [hparse] at hw
        cases hw
        exact ⟨rfl, rfl, raw, hraw, hparse⟩
  · rintro ⟨rfl, rfl, raw, hraw, hparse⟩
    exact ⟨raw, hraw, by rw [hparse]⟩

/-- The overlay of one setting. -/
theorem overlayKey_eq (source : String) (lookup : Key → Option String) (c : Config) (k : Key) :
    overlayKey source lookup c k =
      (c.override k (k.read? (lookup k)), (complaint? source lookup k).toList) := by
  unfold overlayKey Key.read? complaint?
  cases lookup k with
  | none => rfl
  | some raw =>
      simp only [Option.bind_some]
      cases k.parse raw <;> rfl

theorem get_overlayKey_self :
    (overlayKey source lookup c k).1.get k = (k.read? (lookup k)).getD (c.get k) := by
  rw [overlayKey_eq, get_override_self]

theorem get_overlayKey_of_ne (h : j ≠ k) :
    (overlayKey source lookup c k).1.get j = c.get j := by
  rw [overlayKey_eq, get_override_of_ne h]

theorem get_overlayKeys_of_notMem {keys : List Key} (h : j ∉ keys) :
    (overlayKeys source lookup c keys).1.get j = c.get j := by
  induction keys generalizing c with
  | nil => rfl
  | cons k keys ih =>
      rw [List.mem_cons, not_or] at h
      exact (ih h.2).trans (get_overlayKey_of_ne h.1)

/-- Settings that are overlaid once each do not get in each other's way. -/
theorem get_overlayKeys_of_mem {keys : List Key} (hnodup : keys.Nodup) (h : j ∈ keys) :
    (overlayKeys source lookup c keys).1.get j = (j.read? (lookup j)).getD (c.get j) := by
  induction keys generalizing c with
  | nil => exact absurd h List.not_mem_nil
  | cons k keys ih =>
      obtain ⟨hk, hkeys⟩ := List.nodup_cons.mp hnodup
      by_cases hjk : j = k
      · subst hjk
        exact (get_overlayKeys_of_notMem hk).trans get_overlayKey_self
      · have hj : j ∈ keys := (List.mem_cons.mp h).resolve_left hjk
        exact (ih hkeys hj).trans (congrArg _ (get_overlayKey_of_ne hjk))

theorem warnings_overlayKeys (keys : List Key) :
    (overlayKeys source lookup c keys).2 = keys.filterMap (complaint? source lookup) := by
  induction keys generalizing c with
  | nil => rfl
  | cons k keys ih =>
      have hhere : (overlayKey source lookup c k).2 = (complaint? source lookup k).toList := by
        rw [overlayKey_eq]
      simp only [overlayKeys]
      rw [ih, hhere]
      cases hk : complaint? source lookup k with
      | none => rw [List.filterMap_cons_none hk]; rfl
      | some w => rw [List.filterMap_cons_some hk]; rfl

/-- An overlay decides each setting by its own text alone. -/
theorem get_overlay : (c.overlay source lookup).1.get k = (k.read? (lookup k)).getD (c.get k) :=
  get_overlayKeys_of_mem Key.nodup_all k.mem_all

/-- One warning for every text that cannot be read, in the order of the settings, none of which comes
    twice (`Key.nodup_all`). -/
structure Reports (source : String) (lookup : Key → Option String) (ws : List Warning) : Prop where
  mem_iff : ∀ w, w ∈ ws ↔
    w.source = source ∧ ∃ raw, lookup w.key = some raw ∧ w.key.parse raw = .error w.reason
  ordered : (ws.map Warning.key).Sublist Key.all

theorem complaints_sublist (keys : List Key) :
    ((keys.filterMap (complaint? source lookup)).map Warning.key).Sublist keys := by
  induction keys with
  | nil => exact List.Sublist.slnil
  | cons k keys ih =>
      cases hk : complaint? source lookup k with
      | none =>
          rw [List.filterMap_cons_none hk]
          exact ih.cons k
      | some w =>
          rw [List.filterMap_cons_some hk, List.map_cons, (complaint?_eq_some.mp hk).2.1]
          exact ih.cons_cons k

theorem reports_overlay : Reports source lookup (c.overlay source lookup).2 := by
  unfold overlay
  rw [warnings_overlayKeys]
  refine ⟨fun w => ?_, complaints_sublist Key.all⟩
  rw [List.mem_filterMap]
  constructor
  · rintro ⟨k, -, hk⟩
    obtain ⟨hsource, -, hraw⟩ := complaint?_eq_some.mp hk
    exact ⟨hsource, hraw⟩
  · rintro ⟨hsource, hraw⟩
    exact ⟨w.key, w.key.mem_all, complaint?_eq_some.mpr ⟨hsource, rfl, hraw⟩⟩

/-! ## The file and the environment -/

/-- What a settings file says to `read`, `name` being how warnings call it.  Without a file nothing is
    said. -/
inductive FileSays (read : Reader) : Option Source → String → (Key → Option String) → Prop where
  | noFile (name : String) : FileSays read none name fun _ => none
  | file {source : Source} {found : Found} {text : String} {said : Key → Option String}
      (hfound : source.found = some found) (hdecode : Text.Utf8.decode found.content = .ok text)
      (hread : read text = .ok said) : FileSays read (some source) source.path said

variable {read : Reader}

/-- A file that can be read is an overlay, whatever its texts are. -/
theorem FileSays.withFile {source : Source} {name : String} {said : Key → Option String}
    (h : FileSays read (some source) name said) (c : Config) :
    c.withFile read source = .ok (c.overlay name said) := by
  cases h with
  | file hfound hdecode hread => simp only [Config.withFile, withRead, hfound, hdecode, hread]

/-- A load is an overlay of the environment over an overlay of the file. -/
theorem FileSays.load {file : Option Source} {name : String} {said : Key → Option String}
    (h : FileSays read file name said) (env : Environment) (base : Config) :
    ∃ (c : Config) (fromFile : List Warning), Reports name said fromFile ∧
      (∀ k, c.get k = (k.read? (said k)).getD (base.get k)) ∧
      load read file env base =
        .ok ((c.withEnvironment env).1, fromFile ++ (c.withEnvironment env).2) := by
  cases file with
  | none =>
      cases h
      refine ⟨base, [], ⟨fun w => ?_, List.nil_sublist _⟩, fun k => rfl, rfl⟩
      constructor
      · exact fun h => absurd h List.not_mem_nil
      · rintro ⟨-, raw, hraw, -⟩
        cases hraw
  | some source =>
      refine ⟨(base.overlay name said).1, (base.overlay name said).2, reports_overlay,
        fun k => get_overlay, ?_⟩
      simp only [Config.load, h.withFile]
      rfl

end Config

namespace CommandLine

/-! ## The options -/

section Grammar

variable {κ : Type} [DecidableEq κ] {g : Grammar κ}

/-- Every option that is found has a value that it accepts. -/
def Grammar.Accepted (g : Grammar κ) (found : List (κ × String)) : Prop :=
  ∀ f ∈ found, g.accepts f.1 f.2 = true

theorem Grammar.Accepted.add {found found' : List (κ × String)} {key : κ} {value : String}
    (hf : g.Accepted found) (h : g.add found key value = .ok found') : g.Accepted found' := by
  unfold Grammar.add at h
  split at h
  · cases h
  · rename_i hgood
    cases h
    rw [Bool.or_eq_true, not_or, Bool.not_eq_true', Bool.not_eq_false] at hgood
    intro f hmem
    rcases List.mem_append.mp hmem with hold | hnew
    · exact hf f hold
    · rw [List.mem_singleton.mp hnew]
      exact hgood.2

/-- Arguments that are read give accepted values only. -/
theorem Grammar.Accepted.read {found found' : List (κ × String)} {args : List String}
    (hf : g.Accepted found) (h : g.read found args = .ok found') : g.Accepted found' := by
  fun_induction Grammar.read g found args with
  | case1 found =>
      cases h
      exact hf
  | case2 found rest hend =>
      cases h
      exact hf
  | case5 found arg rest hnot key value hmeaning found₁ hadd ih => exact ih (hf.add hadd) h
  | case9 found arg hnot key hmeaning value rest hlooks found₁ hadd ih => exact ih (hf.add hadd) h
  | _ => cases h

end Grammar

namespace EchoServer

/-- The setting that an option overrides. -/
def Key.setting? : Key → Option Config.Key
  | .config => none
  | .port => some .port
  | .threads => some .threadPoolSize
  | .mode => some .serverMode

/-- The value of a setting by the options that are found. -/
def flag? (found : List (Key × String)) : (k : Config.Key) → Option k.Value
  | .port => (found.lookup .port).bind port?
  | .threadPoolSize => (found.lookup .threads).bind Config.size?
  | .serverMode => (found.lookup .mode).bind ServerMode.parse?
  | .bindAddress | .sendBufferSize | .receiveBufferSize | .maxConnections | .tcpNodelay | .logLevel
  | .eventCapacity => none

/-- An option that is given has a value for its setting. -/
theorem isSome_flag? {found : List (Key × String)} (hf : grammar.Accepted found) {o : Key}
    {raw : String} {k : Config.Key} (hgiven : found.lookup o = some raw)
    (hset : o.setting? = some k) : (flag? found k).isSome = true := by
  obtain ⟨before, after, rfl, -⟩ := List.lookup_eq_some_iff.mp hgiven
  have haccepts : grammar.accepts o raw = true :=
    hf (o, raw) (List.mem_append_right before List.mem_cons_self)
  unfold grammar at haccepts
  cases o with
  | config => cases hset
  | port | threads | mode =>
      cases hset
      simpa only [flag?, hgiven, Option.bind_some] using haccepts

/-- Options are overrides, one after the other. -/
theorem Plan.apply_eq (p : Plan) (c : Config) :
    p.apply c =
      ((c.override .port p.port).override .threadPoolSize p.threads).override .serverMode p.mode := by
  obtain ⟨file, port, threads, mode⟩ := p
  cases port <;> cases threads <;> cases mode <;> rfl

/-- The options that are found override their own settings. -/
theorem plan_apply {env : Environment} {args : List String} {p : Plan}
    (hplan : plan env args = .ok p) :
    ∃ found, grammar.read [] args = .ok found ∧
      ∀ c k, (p.apply c).get k = (flag? found k).getD (c.get k) := by
  unfold plan at hplan
  cases hread : grammar.read [] args with
  | error stop =>
      rw [hread] at hplan
      cases hplan
  | ok found =>
      simp only [hread] at hplan
      split at hplan
      · cases hplan
      · cases hplan
        refine ⟨found, rfl, fun c k => ?_⟩
        rw [Plan.apply_eq]
        cases k <;>
          simp (disch := decide) only [Config.get_override_self, Config.get_override_of_ne, flag?,
            Option.getD_none]

/-- The settings of a program are those of its file and its environment with the options on top. -/
theorem settings_of_load {p : Plan} {read : Config.Reader} {env : Environment}
    {content : String → Option ByteArray} {c : Config} {warnings : List Config.Warning}
    (h : Config.load read (p.file.map (Config.locate content)) env {} = .ok (c, warnings)) :
    ∃ start, p.settings read env content =
      (warnings.map Config.Warning.record ++ [start], some (p.apply c)) := by
  unfold Plan.settings
  rw [h]
  exact ⟨_, rfl⟩

end EchoServer

end CommandLine

namespace Config

open CommandLine

/-- **THE LAYERS OF A SETTING**: however files are read and whatever the texts are, the settings load.  Each is what the environment
    says, if its variable can be read; else what the file says, if its entry can be read; else what it
    was.  What cannot be read is warned about once, the file before the environment and each in the order
    of the settings.  The options of the echo server then override their own settings, and no others.
    Every setting has its own name and its own variable, so no text is read for two. -/
theorem load_precedence {read : Reader} {file : Option Source} {name : String}
    {said : Key → Option String} (hfile : FileSays read file name said) (env : Environment)
    (base : Config) :
    (∃ c fromFile fromEnvironment,
      load read file env base = .ok (c, fromFile ++ fromEnvironment) ∧
      Reports name said fromFile ∧
      Reports "environment" (environmentLookup env) fromEnvironment ∧
      ∀ k, c.get k =
        (k.read? (environmentLookup env k)).getD ((k.read? (said k)).getD (base.get k))) ∧
    Function.Injective Key.name ∧ Function.Injective Key.variable ∧
    ∀ args p, EchoServer.plan env args = .ok p →
      (∃ found, EchoServer.grammar.read [] args = .ok found ∧
        (∀ c k, (p.apply c).get k = (EchoServer.flag? found k).getD (c.get k)) ∧
        ∀ o raw k, found.lookup o = some raw → o.setting? = some k →
          (EchoServer.flag? found k).isSome = true) ∧
      ∀ content c warnings, p.file.map (locate content) = file →
        load read file env {} = .ok (c, warnings) →
        ∃ start, p.settings read env content =
          (warnings.map Warning.record ++ [start], some (p.apply c)) := by
  refine ⟨?_, Key.name_injective, Key.variable_injective, fun args p hplan => ⟨?_, ?_⟩⟩
  · obtain ⟨c, fromFile, hreports, hvalue, hload⟩ := hfile.load env base
    refine ⟨_, fromFile, _, hload, hreports, reports_overlay, fun k => ?_⟩
    rw [← hvalue]
    exact get_overlay
  · obtain ⟨found, hread, hvalue⟩ := EchoServer.plan_apply hplan
    have haccepted : EchoServer.grammar.Accepted found :=
      CommandLine.Grammar.Accepted.read (fun f h => absurd h List.not_mem_nil) hread
    exact ⟨found, hread, hvalue, fun o raw k hgiven hset =>
      EchoServer.isSome_flag? haccepted hgiven hset⟩
  · rintro content c warnings rfl hload
    exact EchoServer.settings_of_load hload

/-- A file with a port that cannot be read. -/
def mixedText : String := "[server]\nport = nine\nthread_pool_size = 8\nlog_level = debug\n"

def mixedSections : List Ini.Section :=
  [⟨none, []⟩, ⟨some "server",
    [⟨"port", "nine"⟩, ⟨"thread_pool_size", "8"⟩, ⟨"log_level", "debug"⟩]⟩]

def mixedFile : Source := ⟨"mixed.ini", some ⟨"mixed.ini", mixedText.toByteArray⟩⟩

/-- An environment with a pool size that cannot be read. -/
def mixedEnvironment : Environment :=
  ⟨[("SOCKSERVE_THREAD_POOL_SIZE", "many".toByteArray),
    ("SOCKSERVE_LOG_LEVEL", "error".toByteArray)]⟩

theorem fileReader_mixedText :
    fileReader mixedText = .ok (treeLookup (Ini.tree mixedSections)) := by
  have hparse : Ini.parse mixedText = .ok mixedSections := by decide +kernel
  rw [fileReader, hparse]

theorem decode_toByteArray (text : String) : Text.Utf8.decode text.toByteArray = .ok text := by
  simp only [Text.Utf8.decode, String.fromUTF8?, text.isValidUTF8, dif_pos]
  rfl

/-- A port that nobody can read stays; a pool size falls through to the file; a level is the
    environment's; a mode is the option's. -/
theorem load_precedence_mixed :
    FileSays fileReader (some mixedFile) "mixed.ini" (treeLookup (Ini.tree mixedSections)) ∧
    ∃ c fromFile fromEnvironment,
      load fileReader (some mixedFile) mixedEnvironment { port := 7000 } =
        .ok (c, fromFile ++ fromEnvironment) ∧
      ⟨"mixed.ini", .port, .unparsable "nine"⟩ ∈ fromFile ∧
      ⟨"environment", .threadPoolSize, .unparsable "many"⟩ ∈ fromEnvironment ∧
      c.get .port = 7000 ∧ c.get .threadPoolSize = 8 ∧ c.get .logLevel = some .error ∧
      ∃ p, EchoServer.plan mixedEnvironment ["--mode", "blocking"] = .ok p ∧
        (p.apply c).get .serverMode = .acceptLoop ∧ (p.apply c).get .threadPoolSize = 8 := by
  have hsaid :
      FileSays fileReader (some mixedFile) "mixed.ini" (treeLookup (Ini.tree mixedSections)) :=
    .file rfl (decode_toByteArray mixedText) fileReader_mixedText
  obtain ⟨⟨c, fromFile, fromEnvironment, hload, hfile, henv, hvalue⟩, -, -, hoptions⟩ :=
    load_precedence hsaid mixedEnvironment { port := 7000 }
  have hsize : c.get .threadPoolSize = 8 := (hvalue .threadPoolSize).trans (by decide +kernel)
  refine ⟨hsaid, c, fromFile, fromEnvironment, hload, ?_, ?_, ?_, hsize, ?_, ?_⟩
  · exact (hfile.mem_iff _).mpr ⟨rfl, "nine", by decide +kernel, by decide +kernel⟩
  · exact (henv.mem_iff _).mpr ⟨rfl, "many", by decide +kernel, by decide +kernel⟩
  · exact (hvalue .port).trans (by decide +kernel)
  · exact (hvalue .logLevel).trans (by decide +kernel)
  · have hplan : EchoServer.plan mixedEnvironment ["--mode", "blocking"] =
        .ok { mode := some .acceptLoop } := by decide +kernel
    obtain ⟨⟨found, hread, happly, -⟩, -⟩ := hoptions _ _ hplan
    obtain rfl : [(.mode, "blocking")] = found :=
      Except.ok.inj ((by decide +kernel : _ = Except.ok _).symm.trans hread)
    have hmode : EchoServer.flag? [(.mode, "blocking")] .serverMode = some .acceptLoop := by
      decide +kernel
    exact ⟨_, hplan, (happly c .serverMode).trans (congrArg (Option.getD · _) hmode),
      (happly c .threadPoolSize).trans hsize⟩

end Config

end PooledServer
