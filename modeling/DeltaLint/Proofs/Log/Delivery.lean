import DeltaLint.Log.Logger
import DeltaLint.Proofs.List.Keyed
import DeltaLint.Proofs.Settings.Outputs
import DeltaLint.Proofs.Tree.Files
import Mathlib

/-!
# What outputs receive

An output receives the events that are as serious as all logging and the output
itself ask for, each once and in the order of the calls, whichever way they
come. Standard outputs receive none of those that come while a live display has
the terminal. What was configured earlier makes no difference, and what a file
holds already stays in front of what it receives.
-/

namespace DeltaLint
namespace Log

/-!
## What is to be received
-/

/-- The calls of acts, each with the number of live displays at its time. -/
def Act.located : Nat → List Act → List (Nat × Call)
  | _, [] => []
  | depth, .call c :: rest => (depth, c) :: located depth rest
  | depth, .suppress :: rest => located (depth + 1) rest
  | depth, .release :: rest => located (depth - 1) rest

/-- No live display begins while there is one. -/
def Act.IsFlat : Nat → List Act → Prop
  | _, [] => True
  | depth, .call _ :: rest => IsFlat depth rest
  | depth, .suppress :: rest => depth = 0 ∧ IsFlat 1 rest
  | depth, .release :: rest => IsFlat (depth - 1) rest

/-- Paths in the fields of an event as they are seen from a root. -/
def Event.seenFrom (root : Option Path) (e : Event) : Event :=
  match root with
  | some root => { e with fields := relativeFields root e.fields }
  | none => e

namespace Output

/-- Whether an output is to receive an event, by the level of all logging and the number of live
displays. -/
def receives (o : Output) (level : Level) (depth : Nat) (e : Event) : Bool :=
  level.number ≤ e.level.number && (o.level.getD level).number ≤ e.level.number &&
    (!o.isConsole || depth = 0)

/-- The events that an output is to receive. -/
def received (o : Output) (level : Level) (calls : List (Nat × Call)) : List Event :=
  (calls.filter fun (depth, c) => o.receives level depth c.event).map (·.2.event)

/-- An event as it is written to an output. -/
def record (o : Output) (root : Option Path) (time : String) (e : Event) : Write :=
  ⟨o.channel, line o.format time (e.seenFrom root) ++ "\n"⟩

end Output

/-!
## One call
-/

/-- A logger that was configured. -/
def Logger.configured (config : Logging) (root : Option Path) (time : String) (quiet : Bool) :
    Logger :=
  ⟨config.level, ⟨config.level, config.outputs.map (Session.handler config.level), root, time⟩,
    quiet⟩

variable {config : Logging} {root : Option Path} {time : String}

theorem Session.log_eq (s : Session) (quiet : Bool) (e : Event) :
    s.log quiet e = if e.level.atLeast s.level then
      s.handlers.filterMap (s.handle quiet (e.seenFrom s.root)) else [] := by
  unfold Session.log Event.seenFrom
  cases s.root <;> rfl

theorem level_seenFrom (root : Option Path) (e : Event) : (e.seenFrom root).level = e.level := by
  cases root <;> rfl

/-- What the handler of an output writes for an event that passed the level of all logging. -/
theorem handle_eq (o : Output) (quiet : Bool) {e : Event}
    (hlevel : e.level.atLeast config.level = true) :
    Session.handle (Logger.configured config root time quiet).session quiet (e.seenFrom root)
        (Session.handler config.level o) =
      if o.receives config.level quiet.toNat e then some (o.record root time e) else none := by
  have hpassed : o.receives config.level quiet.toNat e =
      (e.level.atLeast (o.level.getD config.level) && !(quiet && o.isConsole)) := by
    rw [Level.atLeast] at hlevel
    rw [Output.receives, hlevel, Bool.true_and, Level.atLeast]
    cases quiet <;> simp
  rw [Session.handle, level_seenFrom, Session.handler, hpassed]
  cases e.level.atLeast (o.level.getD config.level) <;> cases quiet && o.isConsole <;> rfl

/-- What a call makes the outputs of a configuration receive. -/
def Logging.records (config : Logging) (root : Option Path) (time : String) (call : Nat × Call) :
    List Write :=
  config.outputs.filterMap fun o =>
    if o.receives config.level call.1 call.2.event then some (o.record root time call.2.event)
    else none

/-- A call is written to every output that is to receive it, whichever way it comes. -/
theorem call_configured (quiet : Bool) (c : Call) :
    (Logger.configured config root time quiet).call c =
      config.records root time (quiet.toNat, c) := by
  have hlog : (Logger.configured config root time quiet).call c =
      (Logger.configured config root time quiet).session.log quiet c.event := by
    rw [Logger.call]
    cases c.way with
    | direct =>
        rfl
    | bound =>
        dsimp only
        split
        · rfl
        · rename_i hlow
          rw [Session.log_eq]
          exact (if_neg hlow).symm
  rw [hlog, Session.log_eq]
  split
  · rename_i hlevel
    have hhandlers : (Logger.configured config root time quiet).session.handlers =
        config.outputs.map (Session.handler config.level) :=
      rfl
    rw [hhandlers, List.filterMap_map]
    exact List.filterMap_congr fun o _ho => handle_eq o quiet hlevel
  · rename_i hlow
    refine (List.filterMap_eq_nil_iff.mpr fun o _ho => if_neg ?_).symm
    rw [Output.receives, Bool.and_eq_true, Bool.and_eq_true]
    exact fun h => hlow h.1.1

/-!
## All calls
-/

theorem run_configured {acts : List Act} {quiet : Bool} (hflat : Act.IsFlat quiet.toNat acts) :
    (Logger.configured config root time quiet).run acts =
      (Act.located quiet.toNat acts).flatMap (config.records root time) := by
  induction acts generalizing quiet with
  | nil =>
      rfl
  | cons a rest ih =>
      cases a with
      | call c =>
          have hrest := ih (show Act.IsFlat quiet.toNat rest from hflat)
          rw [Act.located, List.flatMap_cons, ← call_configured, ← hrest]
          rfl
      | suppress =>
          -- no live display was there, so the number of them is what being quiet tells
          have hrest : Act.IsFlat true.toNat rest := hflat.2
          rw [Act.located, hflat.1]
          exact ih hrest
      | release =>
          have hzero : quiet.toNat - 1 = false.toNat := by
            cases quiet <;> rfl
          have hrest : Act.IsFlat (quiet.toNat - 1) rest := hflat
          rw [hzero] at hrest
          rw [Act.located, hzero]
          exact ih hrest

/-- What an output on a channel of its own gets of a call. -/
theorem filter_records (hchannels : (config.outputs.map (·.channel)).Nodup) {o : Output}
    (ho : o ∈ config.outputs) (call : Nat × Call) :
    (config.records root time call).filter (·.channel = o.channel) =
      if o.receives config.level call.1 call.2.event then [o.record root time call.2.event]
      else [] := by
  have hchannel : forall (o' : Output) (w : Write),
      (if o'.receives config.level call.1 call.2.event then
        some (o'.record root time call.2.event) else none) = some w -> w.channel = o'.channel := by
    intro o' w hw
    rw [Option.ite_none_right_eq_some] at hw
    rw [← Option.some.inj hw.2]
    rfl
  rw [Logging.records, filter_filterMap_of_nodup hchannel hchannels ho]
  split <;> rfl

theorem filter_flatMap_records (hchannels : (config.outputs.map (·.channel)).Nodup) {o : Output}
    (ho : o ∈ config.outputs) (calls : List (Nat × Call)) :
    (calls.flatMap (config.records root time)).filter (·.channel = o.channel) =
      (o.received config.level calls).map (o.record root time) := by
  induction calls with
  | nil =>
      rfl
  | cons call rest ih =>
      rw [List.flatMap_cons, List.filter_append, ih, filter_records hchannels ho, Output.received,
        Output.received, List.filter_cons]
      split <;> rfl

/-!
## Configuring
-/

variable {h host : Host} {old l : Logger} {outputs : List Output}

theorem addOutputs_eq (hadded : Logger.addOutputs h old outputs = ⟨host, l, none⟩) :
    l = ⟨old.least, { old.session with handlers :=
        old.session.handlers ++ outputs.map (Session.handler old.session.level) }, old.quiet⟩ ∧
      Session.openOutputs h outputs = .done host := by
  induction outputs generalizing h old with
  | nil =>
      rw [Logger.addOutputs, Configured.mk.injEq] at hadded
      rcases hadded with ⟨rfl, rfl, -⟩
      refine ⟨?_, rfl⟩
      rw [List.map_nil, List.append_nil]
  | cons o rest ih =>
      rw [Logger.addOutputs] at hadded
      rw [Session.openOutputs, Change.next]
      cases hopened : (Session.openOutput h o).failure with
      | some f =>
          simp only [hopened] at hadded
          cases hadded
      | none =>
          simp only [hopened] at hadded
          rcases ih hadded with ⟨rfl, hrest⟩
          refine ⟨?_, hrest⟩
          simp [Logger.add]

/-- A configuration that is complete is all that remains, whatever there was before. -/
theorem configure_eq (hconfigured : Logger.configure h old time config root = ⟨host, l, none⟩) :
    exists seen, Logger.resolveRoot h root = .ok seen ∧
      l = .configured config seen time old.quiet ∧
      Session.openOutputs h config.outputs = .done host := by
  rw [Logger.configure] at hconfigured
  split at hconfigured
  · cases hconfigured
  · rename_i seen hseen
    rcases addOutputs_eq hconfigured with ⟨rfl, hopened⟩
    exact ⟨seen, hseen, rfl, hopened⟩

/-- The session of a complete configuration is the one for all of its outputs. -/
theorem ofLogging_of_configure
    (hconfigured : Logger.configure h old time config root = ⟨host, l, none⟩) :
    Session.ofLogging h time config root = .ok l.session := by
  rcases configure_eq hconfigured with ⟨seen, hseen, rfl, -⟩
  cases root with
  | none =>
      cases hseen
      rfl
  | some root =>
      rw [Logger.resolveRoot] at hseen
      rw [Session.ofLogging]
      cases hroot : h.resolve root with
      | error e =>
          simp only [hroot] at hseen
          cases hseen
      | ok root =>
          simp only [hroot] at hseen
          cases hseen
          rfl

/-!
## Files
-/

theorem isAbsolute_of_channel {o : Output} {path : Path} (ho : o.IsPlaced)
    (hchannel : o.channel = .file path) : path.isAbsolute = true := by
  have hconsole : o.isConsole = false ∧ (Path.ofString o.destination).tidy = path := by
    rw [Output.channel] at hchannel
    split at hchannel
    · cases hchannel
    · split at hchannel
      · cases hchannel
      · rename_i herr hout
        injection hchannel with hpath
        exact ⟨by rw [Output.isConsole]; simp [herr, hout], hpath⟩
  rcases ho with hyes | habsolute
  · rw [hconsole.1] at hyes
    cases hyes
  · rw [← hconsole.2]
    exact habsolute

theorem keepsFiles_openOutput {o : Output} (ho : o.IsPlaced)
    (hroot : h.tree.mark? [] = some .directory) (hopened : Session.openOutput h o = .done host) :
    Host.KeepsFiles h host ∧ forall path, o.channel = .file path ->
      exists place bytes, host.Holds path place bytes := by
  unfold Session.openOutput at hopened
  split at hopened
  · rename_i path hchannel
    have hmade := Host.KeepsFiles.of_grows
      (h.grows_makeDirectories (Path.ofString o.destination).parent)
    have hresult := Change.of_ofResult_eq_done (Change.of_next_eq_done hopened)
    generalize (h.makeDirectories (Path.ofString o.destination).parent).host = made at hmade hresult
    have happended : made.append path [] = .ok host := by
      cases hresult' : made.append path [] with
      | error e =>
          rw [hresult'] at hresult
          cases hresult
      | ok opened =>
          rw [hresult'] at hresult
          cases hresult
          rfl
    have hstart : made.start path = [] := by
      rw [Host.start_eq, if_pos (isAbsolute_of_channel ho hchannel)]
    have hparts : path.parts ≠ [] :=
      Host.parts_ne_nil_of_update (hstart ▸ hmade.root hroot) happended
    rcases Host.keepsFiles_of_append hparts happended with ⟨hkept, hholds⟩
    refine ⟨hmade.trans hkept, fun other hother => ?_⟩
    rw [hchannel] at hother
    cases hother
    exact hholds
  · rename_i hother
    cases hopened
    exact ⟨.refl h, fun path hchannel => absurd hchannel (hother path)⟩

theorem keepsFiles_openOutputs (houtputs : forall o, o ∈ outputs -> o.IsPlaced)
    (hroot : h.tree.mark? [] = some .directory)
    (hopened : Session.openOutputs h outputs = .done host) :
    Host.KeepsFiles h host ∧ forall o, o ∈ outputs -> forall path, o.channel = .file path ->
      exists place bytes, host.Holds path place bytes := by
  induction outputs generalizing h with
  | nil =>
      cases hopened
      exact ⟨.refl _, nofun⟩
  | cons o rest ih =>
      rcases List.forall_mem_cons.mp houtputs with ⟨ho, hothers⟩
      rw [Session.openOutputs] at hopened
      rcases keepsFiles_openOutput ho hroot (Change.done_of_next_eq_done hopened) with
        ⟨hkept, hholds⟩
      rcases ih hothers (hkept.root hroot) (Change.of_next_eq_done hopened) with ⟨hrest, hall⟩
      refine ⟨hkept.trans hrest, List.forall_mem_cons.mpr ⟨fun path hchannel => ?_, hall⟩⟩
      rcases hholds path hchannel with ⟨place, bytes, hfile⟩
      exact ⟨place, bytes, hrest.files _ _ _ hfile⟩

/-- No two outputs have one destination, also not by two paths to one file. -/
structure AreApart (host : Host) (outputs : List Output) : Prop where
  channels : (outputs.map (·.channel)).Nodup
  places : forall o, o ∈ outputs -> forall o', o' ∈ outputs -> forall p q place,
    o.channel = .file p -> o'.channel = .file q -> host.LeadsTo p place -> host.LeadsTo q place ->
      p = q

def encoded (writes : List Write) : List UInt8 :=
  writes.flatMap fun w => Text.encode w.text.toList

/-- A file ends with what was written to it, if what was written elsewhere went to other files. -/
theorem holds_deliver {writes : List Write} {path : Path} {place : List String} {bytes : List UInt8}
    (hfile : h.Holds path place bytes)
    (hothers : forall w, w ∈ writes -> forall q, w.channel = .file q ->
      exists goal held, h.Holds q goal held ∧ (goal = place -> q = path)) :
    (h.deliver writes).Holds path place
      (bytes ++ encoded (writes.filter (·.channel = .file path))) := by
  induction writes generalizing h bytes with
  | nil =>
      simpa [Host.deliver, encoded] using hfile
  | cons w rest ih =>
      rcases List.forall_mem_cons.mp hothers with ⟨hw, hrest⟩
      rw [Host.deliver, List.foldl_cons, ← Host.deliver, Host.deliverOne]
      cases hchannel : w.channel with
      | file q =>
          rcases hw q hchannel with ⟨goal, held, hheld, hgoal⟩
          rcases hheld.exists_update (· ++ Text.encode w.text.toList) with ⟨next, hnext, hkept⟩
          have happended : h.append q (Text.encode w.text.toList) = .ok next :=
            hnext
          have hnextOthers : forall w', w' ∈ rest -> forall q', w'.channel = .file q' ->
              exists goal held, next.Holds q' goal held ∧ (goal = place -> q' = path) := by
            intro w' hw' q' hq'
            rcases hrest w' hw' q' hq' with ⟨goal', held', hheld', hgoal'⟩
            exact ⟨goal', _, hkept q' goal' held' hheld', hgoal'⟩
          have hnextFile := hkept path place bytes hfile
          simp only [happended, Except.toOption, Option.getD_some]
          -- another path leads to another place, and what is there stays as it is
          by_cases hq : q = path
          · rw [hq] at hheld hchannel
            rw [if_pos (hfile.place_eq hheld)] at hnextFile
            rw [List.filter_cons_of_pos (by simpa using hchannel), encoded, List.flatMap_cons,
              ← List.append_assoc]
            exact ih hnextFile hnextOthers
          · have hne : w.channel ≠ .file path := by
              rw [hchannel]
              simpa using hq
            rw [if_neg fun heq => hq (hgoal heq.symm)] at hnextFile
            rw [List.filter_cons_of_neg (by simpa using hne)]
            exact ih hnextFile hnextOthers
      | stdout | stderr =>
          have hne : w.channel ≠ .file path := by
            rw [hchannel]
            simp
          rw [List.filter_cons_of_neg (by simpa using hne)]
          exact ih hfile hrest

/-!
## Delivery
-/

theorem exists_output_of_mem_records {call : Nat × Call} {w : Write}
    (hw : w ∈ config.records root time call) :
    exists o, o ∈ config.outputs ∧ w.channel = o.channel := by
  rcases List.mem_filterMap.mp hw with ⟨o, ho, hrecord⟩
  rw [Option.ite_none_right_eq_some] at hrecord
  exact ⟨o, ho, by rw [← Option.some.inj hrecord.2]; rfl⟩

/-- After logging was configured, whatever was configured before, each of its outputs receives the
events that are meant for it, in their order and once each, and files keep what they held. -/
theorem delivered_of_configure {acts : List Act} (hroot : h.tree.isDirectory = true)
    (houtputs : forall o, o ∈ config.outputs -> o.IsPlaced)
    (hconfigured : Logger.configure h old time config root = ⟨host, l, none⟩)
    (hapart : AreApart host config.outputs) (hflat : Act.IsFlat old.quiet.toNat acts) :
    Logger.resolveRoot h root = .ok l.session.root ∧ forall o, o ∈ config.outputs ->
      (l.run acts).filter (·.channel = o.channel) =
        (o.received config.level (Act.located old.quiet.toNat acts)).map
          (o.record l.session.root time) ∧
      forall path, o.channel = .file path -> exists place held, host.Holds path place held ∧
        (host.deliver (l.run acts)).Holds path place
          (held ++ encoded ((o.received config.level (Act.located old.quiet.toNat acts)).map
            (o.record l.session.root time))) := by
  rcases configure_eq hconfigured with ⟨seen, hseen, rfl, hopened⟩
  have hdirectory : h.tree.mark? [] = some .directory := by
    cases htree : h.tree with
    | directory entries => rfl
    | _ =>
        rw [htree] at hroot
        cases hroot
  have hrun : (Logger.configured config seen time old.quiet).run acts =
      (Act.located old.quiet.toNat acts).flatMap (config.records seen time) :=
    run_configured hflat
  have hfiles := (keepsFiles_openOutputs houtputs hdirectory hopened).2
  refine ⟨hseen, fun o ho => ?_⟩
  have hreceived : ((Logger.configured config seen time old.quiet).run acts).filter
      (·.channel = o.channel) =
        (o.received config.level (Act.located old.quiet.toNat acts)).map (o.record seen time) := by
    rw [hrun]
    exact filter_flatMap_records hapart.channels ho _
  refine ⟨hreceived, fun path hchannel => ?_⟩
  rcases hfiles o ho path hchannel with ⟨place, held, hholds⟩
  refine ⟨place, held, hholds, ?_⟩
  rw [hchannel] at hreceived
  have hothers : forall w, w ∈ (Logger.configured config seen time old.quiet).run acts ->
      forall q, w.channel = .file q ->
        exists goal bytes, host.Holds q goal bytes ∧ (goal = place -> q = path) := by
    intro w hw q hq
    rw [hrun] at hw
    rcases List.mem_flatMap.mp hw with ⟨call, _hcall, hrecord⟩
    rcases exists_output_of_mem_records hrecord with ⟨o', ho', hsame⟩
    rw [hq] at hsame
    rcases hfiles o' ho' q hsame.symm with ⟨goal, bytes, hother⟩
    refine ⟨goal, bytes, hother, fun heq => ?_⟩
    rw [heq] at hother
    exact hapart.places o' ho' o ho q path place hsame.symm hchannel hother.leadsTo hholds.leadsTo
  have hdelivered := holds_deliver hholds hothers
  rw [hreceived] at hdelivered
  exact hdelivered

namespace Rotated

/-- A file that holds something, in a directory of its own. -/
def disk : Host :=
  ⟨.directory [("l", .directory [("run.log", .file [79, 10] newFileMode)])], [], []⟩

def path : Path := ⟨.root, ["l", "run.log"]⟩

def errors : Output := ⟨.console, toStderr, some .error⟩

def everything : Output := ⟨.console, "/l/run.log", none⟩

def logging : Logging := ⟨.warning, [errors, everything]⟩

/-- A logger with an output that is not among the new ones. -/
def before : Logger :=
  ⟨.critical, ⟨.critical, [⟨⟨.json, toStdout, none⟩, .debug⟩], none, ""⟩, false⟩

def acts : List Act :=
  [.call ⟨.direct, ⟨.error, "a", []⟩⟩, .suppress, .call ⟨.bound, ⟨.error, "b", []⟩⟩, .release,
    .call ⟨.bound, ⟨.warning, "c", []⟩⟩, .call ⟨.direct, ⟨.info, "d", []⟩⟩]

theorem isFlat : Act.IsFlat before.quiet.toNat acts :=
  ⟨rfl, trivial⟩

theorem readLogging :
    Settings.readLogging disk (Settings.loggingDatum logging) = .ok (.ok logging) := by
  cbv

theorem isPlaced : forall o, o ∈ logging.outputs -> o.IsPlaced :=
  Settings.isPlaced_of_readLogging readLogging

theorem configure : Logger.configure disk before "now" logging none =
    ⟨disk, .configured logging none "now" false, none⟩ := by
  cbv

theorem channel_everything : everything.channel = .file path := by
  cbv

theorem areApart : AreApart disk logging.outputs where
  channels := by
    decide +kernel
  places := by
    have hpath : forall o, o ∈ logging.outputs -> forall p, o.channel = .file p -> p = path := by
      refine List.forall_mem_cons.mpr ⟨nofun, List.forall_mem_singleton.mpr fun p hp => ?_⟩
      rw [channel_everything] at hp
      injection hp with hp
      exact hp.symm
    intro o ho o' ho' p q place hp hq _hleads _hleads'
    rw [hpath o ho p hp, hpath o' ho' q hq]

end Rotated

/-- The standard error output is silent during a live display and for what is no error; the file
keeps what it held and gets everything from warnings on. -/
theorem delivered_of_configure_rotated :
    let l := Logger.configured Rotated.logging none "now" false
    Logger.configure Rotated.disk Rotated.before "now" Rotated.logging none =
        ⟨Rotated.disk, l, none⟩ ∧
      (l.run Rotated.acts).filter (·.channel = .stderr) = [⟨.stderr, "now [error] a\n"⟩] ∧
      (Rotated.disk.deliver (l.run Rotated.acts)).read Rotated.path =
        .ok (Text.encode "O\nnow [error] a\nnow [error] b\nnow [warning] c\n".toList) := by
  intro l
  have hdelivered := (delivered_of_configure rfl Rotated.isPlaced Rotated.configure
    Rotated.areApart Rotated.isFlat).2
  have herrors := (hdelivered Rotated.errors List.mem_cons_self).1
  rcases (hdelivered Rotated.everything (List.mem_cons_of_mem _ List.mem_cons_self)).2 Rotated.path
    Rotated.channel_everything with ⟨place, held, hheld, hwritten⟩
  have hbefore : Rotated.disk.read Rotated.path = .ok [79, 10] := by
    cbv
  rw [hheld.read_eq, Except.ok.injEq] at hbefore
  refine ⟨Rotated.configure, herrors.trans ?_, hwritten.read_eq.trans (congrArg Except.ok ?_)⟩
  · decide +kernel
  · rw [hbefore]
    decide +kernel

end Log
end DeltaLint
