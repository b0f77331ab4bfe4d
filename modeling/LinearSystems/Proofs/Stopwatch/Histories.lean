import Mathlib
import LinearSystems.Proofs.Answers
import LinearSystems.Stopwatch.Bench

/-!
# What a stopwatch tells of its history

A stopwatch keeps three things: its latest start, the time to the latest stop since then, and a sum
for each section.  Here they are read off the history instead.  A history becomes a list of events,
each action with the time at which it happened (`timeline`), and of these events only their order
counts: which start is the latest (`LastAt`), and which blocks have been left, each with the time of
leaving (`completed`).

**After every history the stopwatch tells what its events say** (`Bench.tells_of_history`): it runs
if there was no stop since the latest start, it refuses to stop only before the first start, and each
section is the sum of its blocks in the order in which they were left.  Starts and stops do not touch
the sections, blocks may overlap and repeat, and what is refused leaves no trace.  Nothing is asked of
the arithmetic of times.
-/

namespace LinearSystems

variable {T : Type}

/-! ## Events -/

namespace BenchAction

/-- Calls of one stopwatch and of its clock: everything but timed runs, which take a stopwatch of
their own. -/
def IsOwn : BenchAction T → Prop
  | beginTimed | endTimed => False
  | _ => True

/-- The time after an action. -/
def clock (now : T) : BenchAction T → T
  | .at time => time
  | _ => now

/-- The handle whose open block an action ends; one that is entered again leaves its old block. -/
def handle? : BenchAction T → Option String
  | enter handle _ | leave handle _ => some handle
  | _ => none

/-- What ends a block is neither a start nor a stop. -/
theorem ne_of_handle?_eq_some {a : BenchAction T} {handle : String} (h : a.handle? = some handle) :
    a ≠ .start ∧ a ≠ .stop := by
  constructor
  · rintro rfl
    cases h
  · rintro rfl
    cases h

end BenchAction

/-- An action and the time at which it happened. -/
structure Event (T : Type) where
  action : BenchAction T
  time : T

/-- The actions with their times, under a clock that stands still until it is set. -/
def timeline (now : T) : List (BenchAction T) → List (Event T)
  | [] => []
  | action :: rest => ⟨action, now⟩ :: timeline (action.clock now) rest

/-- The time after a history. -/
def clockAfter (now : T) (h : List (BenchAction T)) : T := h.foldl BenchAction.clock now

theorem timeline_concat (now : T) (h : List (BenchAction T)) (a : BenchAction T) :
    timeline now (h ++ [a]) = timeline now h ++ [⟨a, clockAfter now h⟩] := by
  induction h generalizing now with
  | nil => rfl
  | cons b h ih => exact congrArg (_ :: ·) (ih (b.clock now))

/-- The last event with an action happened at a time, and these have come since. -/
def LastAt (a : BenchAction T) (events : List (Event T)) (time : T) (since : List (Event T)) : Prop :=
  (∃ before, events = before ++ ⟨a, time⟩ :: since) ∧ ∀ e ∈ since, e.action ≠ a

namespace LastAt

variable {a : BenchAction T} {events since since' : List (Event T)} {t t' : T}

theorem concat_self (a : BenchAction T) (events : List (Event T)) (t : T) :
    LastAt a (events ++ [⟨a, t⟩]) t [] :=
  ⟨⟨events, rfl⟩, nofun⟩

theorem concat (h : LastAt a events t since) {e : Event T} (he : e.action ≠ a) :
    LastAt a (events ++ [e]) t (since ++ [e]) := by
  obtain ⟨⟨before, rfl⟩, hsince⟩ := h
  refine ⟨⟨before, by rw [List.append_assoc, List.cons_append]⟩, ?_⟩
  exact List.forall_mem_append.2 ⟨hsince, List.forall_mem_singleton.2 he⟩

theorem exists_mem (h : LastAt a events t since) : ∃ e ∈ events, e.action = a := by
  obtain ⟨⟨before, rfl⟩, -⟩ := h
  exact ⟨⟨a, t⟩, List.mem_append_right _ List.mem_cons_self, rfl⟩

/-- Nothing comes before the last event of what starts with it. -/
theorem eq_of_cons_eq_append {between : List (Event T)} (hsince : ∀ e ∈ since, e.action ≠ a)
    (h : ⟨a, t⟩ :: since = between ++ ⟨a, t'⟩ :: since') : t = t' ∧ since = since' := by
  cases between with
  | nil =>
      obtain ⟨hevent, hrest⟩ := List.cons.inj h
      exact ⟨congrArg Event.time hevent, hrest⟩
  | cons e between =>
      obtain ⟨-, hrest⟩ := List.cons.inj h
      have hmem : ⟨a, t'⟩ ∈ since := hrest ▸ List.mem_append_right _ List.mem_cons_self
      exact absurd rfl (hsince _ hmem)

/-- There is only one last event. -/
theorem unique (h : LastAt a events t since) (h' : LastAt a events t' since') :
    t = t' ∧ since = since' := by
  obtain ⟨⟨before, rfl⟩, hsince⟩ := h
  obtain ⟨⟨before', hsplit⟩, hsince'⟩ := h'
  rcases List.append_eq_append_iff.1 hsplit with ⟨between, -, hrest⟩ | ⟨between, -, hrest⟩
  · exact eq_of_cons_eq_append hsince hrest
  · exact (eq_of_cons_eq_append hsince' hrest).imp Eq.symm Eq.symm

end LastAt

/-! ## Blocks -/

/-- The block that a handle stands for after some events, the latest first: the one that was entered
under it last, unless it has been left. -/
def openBlock (handle : String) (past : List (Event T)) : Option (Block T) :=
  match past.find? fun e => e.action.handle? == some handle with
  | some ⟨.enter _ name, time⟩ => some ⟨name, time⟩
  | _ => none

/-- The block that an event ends, and the time of leaving. -/
def ended (past : List (Event T)) (e : Event T) : Option (Block T × T) :=
  (e.action.handle?.bind (openBlock · past)).map (·, e.time)

/-- The blocks that are left by some events, in the order of leaving; `past` came before them. -/
def completedFrom (past : List (Event T)) : List (Event T) → List (Block T × T)
  | [] => []
  | e :: rest => (ended past e).toList ++ completedFrom (e :: past) rest

/-- The blocks that are left by some events, in the order of leaving. -/
def completed (events : List (Event T)) : List (Block T × T) := completedFrom [] events

/-- How long the blocks of a name took. -/
def spent [Sub T] (name : String) (blocks : List (Block T × T)) : List T :=
  (blocks.filter fun b => b.1.name == name).map fun b => b.2 - b.1.enteredAt

/-- The sum from the left of some times, if there are any. -/
def sum? [Zero T] [Add T] : List T → Option T
  | [] => none
  | times => some (times.foldl (· + ·) 0)

theorem completedFrom_concat (past events : List (Event T)) (e : Event T) :
    completedFrom past (events ++ [e]) =
      completedFrom past events ++ (ended (events.reverse ++ past) e).toList := by
  induction events generalizing past with
  | nil => exact List.append_nil _
  | cons first events ih =>
      rw [List.cons_append, completedFrom, completedFrom, ih, List.reverse_cons, List.append_assoc,
        List.append_assoc]
      rfl

theorem completed_concat (events : List (Event T)) (e : Event T) :
    completed (events ++ [e]) = completed events ++ (ended events.reverse e).toList := by
  rw [completed, completedFrom_concat, List.append_nil]
  rfl

theorem openBlock_enter (handle name : String) (t : T) (past : List (Event T)) :
    openBlock handle (⟨.enter handle name, t⟩ :: past) = some ⟨name, t⟩ := by
  simp only [openBlock, List.find?, BenchAction.handle?, beq_self_eq_true]

theorem openBlock_leave (handle : String) (how : Leaving) (t : T) (past : List (Event T)) :
    openBlock handle (⟨.leave handle how, t⟩ :: past) = none := by
  simp only [openBlock, List.find?, BenchAction.handle?, beq_self_eq_true]

theorem openBlock_cons_of_ne {handle : String} {e : Event T} (h : e.action.handle? ≠ some handle)
    (past : List (Event T)) : openBlock handle (e :: past) = openBlock handle past := by
  rw [openBlock, List.find?_cons_of_neg (by rwa [beq_iff_eq]), ← openBlock]

section Sums

variable [Zero T] [Add T]

theorem sum?_concat (times : List T) (t : T) :
    sum? (times ++ [t]) = some ((sum? times).getD 0 + t) := by
  cases times with
  | nil => rfl
  | cons first rest =>
      have hfold : (first :: rest ++ [t]).foldl (· + ·) 0 = (first :: rest).foldl (· + ·) 0 + t :=
        List.foldl_concat ..
      exact congrArg some hfold

/-- A block that is left counts for its own name. -/
theorem sum?_spent_concat [Sub T] (name : String) (blocks : List (Block T × T)) (b : Block T × T) :
    sum? (spent name (blocks ++ [b])) =
      if b.1.name = name then
        some ((sum? (spent name blocks)).getD 0 + (b.2 - b.1.enteredAt))
      else sum? (spent name blocks) := by
  split
  · next h =>
      have hspent : spent name (blocks ++ [b]) =
          spent name blocks ++ [b.2 - b.1.enteredAt] := by
        simp [spent, h]
      rw [hspent, sum?_concat]
  · next h =>
      have hspent : spent name (blocks ++ [b]) = spent name blocks := by
        simp [spent, h]
      rw [hspent]

end Sums

/-! ## Tables by name -/

/-- What stands under a key after the entry of a key is gone, no key standing twice. -/
theorem find?_eraseP {β : Type} {l : List (String × β)} (hl : (l.map Prod.fst).Nodup)
    (key key' : String) :
    (l.eraseP fun e => e.1 == key).find? (fun e => e.1 == key') =
      if key' = key then none else l.find? fun e => e.1 == key' := by
  induction l with
  | nil => simp
  | cons e l ih =>
      obtain ⟨hfresh, hl⟩ := List.nodup_cons.1 hl
      by_cases hkey : e.1 = key
      · rw [List.eraseP_cons_of_pos (by rwa [beq_iff_eq])]
        split
        · next h =>
            -- What is gone was the only entry of its key.
            subst h hkey
            refine List.find?_eq_none.2 fun e' he' hsame => hfresh ?_
            exact eq_of_beq hsame ▸ List.mem_map_of_mem he'
        · next h => rw [List.find?_cons_of_neg (by rw [hkey, beq_iff_eq]; exact Ne.symm h)]
      · rw [List.eraseP_cons_of_neg (by rwa [beq_iff_eq])]
        by_cases hkey' : e.1 = key'
        · rw [List.find?_cons_of_pos (by rwa [beq_iff_eq]), List.find?_cons_of_pos (by rwa [beq_iff_eq]),
            if_neg (hkey' ▸ hkey)]
        · rw [List.find?_cons_of_neg (by rwa [beq_iff_eq]), List.find?_cons_of_neg (by rwa [beq_iff_eq]),
            ih hl]

theorem nodup_map_fst_eraseP {β : Type} {l : List (String × β)} (hl : (l.map Prod.fst).Nodup)
    (p : String × β → Bool) : ((l.eraseP p).map Prod.fst).Nodup :=
  hl.sublist ((List.eraseP_sublist).map _)

theorem find?_eq_map_lookup {β : Type} (l : List (String × β)) (key : String) :
    (l.find? fun e => e.1 == key).map Prod.snd = l.lookup key := by
  induction l with
  | nil => rfl
  | cons e l ih =>
      obtain ⟨k, x⟩ := e
      by_cases h : k = key
      · subst h
        rw [List.find?_cons_of_pos (by rw [beq_self_eq_true]), List.lookup_cons_self]
        rfl
      · rw [List.find?_cons_of_neg (by rwa [beq_iff_eq]), ih, List.lookup_cons,
          (beq_eq_false_iff_ne.2 (Ne.symm h) : (key == k) = false)]

theorem lookup_filter_ne {β : Type} (l : List (String × β)) {key other : String} (h : key ≠ other) :
    (l.filter fun e => e.1 != other).lookup key = l.lookup key := by
  induction l with
  | nil => rfl
  | cons e l ih =>
      obtain ⟨k, x⟩ := e
      by_cases hk : k = other
      · subst hk
        rw [List.filter_cons_of_neg (by simp), ih, List.lookup_cons,
          (beq_eq_false_iff_ne.2 h : (key == k) = false)]
      · rw [List.filter_cons_of_pos (by simpa using hk), List.lookup_cons, List.lookup_cons, ih]

namespace Stopwatch

section Sections

variable [Zero T] [Add T]

theorem lookup_accumulate (name key : String) (t : T) (sections : List (String × T)) :
    (accumulate name t sections).lookup key =
      if name = key then some ((sections.lookup key).getD 0 + t) else sections.lookup key := by
  induction sections with
  | nil =>
      by_cases h : name = key
      · subst h
        rw [accumulate, List.lookup_cons_self, if_pos rfl]
        rfl
      · rw [accumulate, List.lookup_cons, (beq_eq_false_iff_ne.2 (Ne.symm h) : (key == name) = false),
          if_neg h]
  | cons e sections ih =>
      obtain ⟨n, x⟩ := e
      rw [accumulate]
      by_cases hkey : key = n
      · subst hkey
        by_cases hn : key = name
        · rw [if_pos hn, if_pos hn.symm, List.lookup_cons_self, List.lookup_cons_self]
          rfl
        · rw [if_neg hn, if_neg (Ne.symm hn), List.lookup_cons_self, List.lookup_cons_self]
      · have hbeq : (key == n) = false := beq_eq_false_iff_ne.2 hkey
        by_cases hn : n = name
        · have hname : name ≠ key := fun h => hkey (h.symm.trans hn.symm)
          rw [if_pos hn, if_neg hname, List.lookup_cons, List.lookup_cons, hbeq]
        · rw [if_neg hn, List.lookup_cons, List.lookup_cons, hbeq, ih]

theorem map_fst_accumulate (name : String) (t : T) (sections : List (String × T)) :
    (accumulate name t sections).map Prod.fst =
      if name ∈ sections.map Prod.fst then sections.map Prod.fst
      else sections.map Prod.fst ++ [name] := by
  induction sections with
  | nil => rfl
  | cons e sections ih =>
      obtain ⟨n, x⟩ := e
      rw [accumulate]
      by_cases hn : n = name
      · subst hn
        rw [if_pos rfl, List.map_cons, List.map_cons, if_pos List.mem_cons_self]
      · simp only [if_neg hn, List.map_cons, ih, List.mem_cons, or_iff_right (Ne.symm hn)]
        split <;> rfl

theorem nodup_map_fst_accumulate (name : String) (t : T) {sections : List (String × T)}
    (h : (sections.map Prod.fst).Nodup) : ((accumulate name t sections).map Prod.fst).Nodup := by
  rw [map_fst_accumulate]
  split
  · exact h
  · next hname => exact List.nodup_append.2 ⟨h, List.nodup_singleton _, by
      rintro _ hmem _ hlast rfl
      exact hname (List.mem_singleton.1 hlast ▸ hmem)⟩

end Sections

end Stopwatch

/-! ## What a stopwatch tells -/

/-- Before the first start there is neither a start nor a total; then there is the latest start, and a
total as soon as a stop has followed it. -/
inductive Phase [Sub T] (events : List (Event T)) : Option T → Option T → Prop
  | idle (h : ∀ e ∈ events, e.action ≠ .start) : Phase events none none
  | running {started : T} {since : List (Event T)} (h : LastAt .start events started since)
      (hsince : ∀ e ∈ since, e.action ≠ .stop) : Phase events (some started) none
  | stopped {started stopped : T} {since rest : List (Event T)}
      (h : LastAt .start events started since) (hsince : LastAt .stop since stopped rest) :
      Phase events (some started) (some (stopped - started))

namespace Phase

variable [Sub T] {events : List (Event T)} {startedAt total : Option T}

/-- Only starts and stops count. -/
theorem concat (h : Phase events startedAt total) {e : Event T} (hstart : e.action ≠ .start)
    (hstop : e.action ≠ .stop) : Phase (events ++ [e]) startedAt total := by
  cases h with
  | idle h => exact .idle (List.forall_mem_append.2 ⟨h, List.forall_mem_singleton.2 hstart⟩)
  | running h hsince =>
      exact .running (h.concat hstart)
        (List.forall_mem_append.2 ⟨hsince, List.forall_mem_singleton.2 hstop⟩)
  | stopped h hsince => exact .stopped (h.concat hstart) (hsince.concat hstop)

theorem start (events : List (Event T)) (now : T) :
    Phase (events ++ [⟨.start, now⟩]) (some now) none :=
  .running (LastAt.concat_self .start events now) nofun

theorem stop {started : T} (h : Phase events (some started) total) (now : T) :
    Phase (events ++ [⟨.stop, now⟩]) (some started) (some (now - started)) := by
  cases h with
  | running h => exact .stopped (h.concat nofun) (LastAt.concat_self .stop _ now)
  | stopped h => exact .stopped (h.concat nofun) (LastAt.concat_self .stop _ now)

/-- A stop before the first start is refused. -/
theorem stop_idle (h : Phase events none total) (now : T) :
    Phase (events ++ [⟨.stop, now⟩]) none total := by
  cases h with
  | idle h => exact .idle (List.forall_mem_append.2 ⟨h, List.forall_mem_singleton.2 nofun⟩)

theorem startedAt_eq_none_iff (h : Phase events startedAt total) :
    startedAt = none ↔ ¬∃ e ∈ events, e.action = .start := by
  cases h with
  | idle h => exact ⟨fun _ ⟨e, he, hstart⟩ => h e he hstart, fun _ => rfl⟩
  | running h => exact ⟨nofun, fun hnone => absurd h.exists_mem hnone⟩
  | stopped h => exact ⟨nofun, fun hnone => absurd h.exists_mem hnone⟩

theorem isRunning_iff (h : Phase events startedAt total) :
    (startedAt.isSome && total.isNone) = true ↔
      ∃ started since, LastAt .start events started since ∧ ∀ e ∈ since, e.action ≠ .stop := by
  cases h with
  | idle h =>
      refine ⟨nofun, fun ⟨_, _, hlast, _⟩ => ?_⟩
      obtain ⟨e, he, hstart⟩ := hlast.exists_mem
      exact absurd hstart (h e he)
  | running h hsince => exact ⟨fun _ => ⟨_, _, h, hsince⟩, fun _ => rfl⟩
  | stopped h hsince =>
      -- There is one latest start only, so what has come since is the same.
      refine ⟨nofun, fun ⟨_, _, hlast, hnone⟩ => ?_⟩
      obtain ⟨e, he, hstop⟩ := hsince.exists_mem
      exact absurd hstop (hnone e ((h.unique hlast).2 ▸ he))

theorem total_eq_none_iff (h : Phase events startedAt total) :
    total = none ↔
      ¬∃ started since, LastAt .start events started since ∧ ∃ e ∈ since, e.action = .stop := by
  cases h with
  | idle h =>
      refine ⟨fun _ ⟨_, _, hlast, _⟩ => ?_, fun _ => rfl⟩
      obtain ⟨e, he, hstart⟩ := hlast.exists_mem
      exact h e he hstart
  | running h hsince =>
      refine ⟨fun _ ⟨_, _, hlast, e, he, hstop⟩ => ?_, fun _ => rfl⟩
      exact hsince e ((h.unique hlast).2 ▸ he) hstop
  | stopped h hsince => exact ⟨nofun, fun hnone => absurd ⟨_, _, h, hsince.exists_mem⟩ hnone⟩

/-- The total is the time from the latest start to the latest stop since. -/
theorem total_eq_some_iff (h : Phase events startedAt total) {t : T} :
    total = some t ↔ ∃ started stopped since rest, LastAt .start events started since ∧
      LastAt .stop since stopped rest ∧ t = stopped - started := by
  cases h with
  | idle h =>
      refine ⟨nofun, fun ⟨_, _, _, _, hlast, _⟩ => ?_⟩
      obtain ⟨e, he, hstart⟩ := hlast.exists_mem
      exact absurd hstart (h e he)
  | running h hsince =>
      refine ⟨nofun, fun ⟨_, _, _, _, hlast, hstop, _⟩ => ?_⟩
      obtain ⟨e, he, hstop⟩ := hstop.exists_mem
      exact absurd hstop (hsince e ((h.unique hlast).2 ▸ he))
  | stopped h hsince =>
      constructor
      · intro ht
        exact ⟨_, _, _, _, h, hsince, (Option.some.inj ht).symm⟩
      · rintro ⟨_, _, _, _, hlast, hstop, rfl⟩
        obtain ⟨rfl, rfl⟩ := h.unique hlast
        rw [(hsince.unique hstop).1]

end Phase

variable [Zero T] [Add T] [Sub T]

/-- The stopwatch holds what the events say. -/
structure Stopwatch.Tells (w : Stopwatch T) (events : List (Event T)) : Prop where
  phase : Phase events w.startedAt w.total
  sections : ∀ name, w.sections.lookup name = sum? (spent name (completed events))
  names : (w.sections.map Prod.fst).Nodup

theorem Stopwatch.Tells.leave {w : Stopwatch T} {events : List (Event T)} (h : w.Tells events)
    {handle : String} {block : Block T} (hopen : openBlock handle events.reverse = some block)
    {e : Event T} (hhandle : e.action.handle? = some handle) : (w.leave e.time block).Tells (events ++ [e]) where
  phase :=
    have hne := BenchAction.ne_of_handle?_eq_some hhandle
    h.phase.concat hne.1 hne.2
  sections := fun name => by
    have hended : ended events.reverse e = some (block, e.time) := by
      rw [ended, hhandle, Option.bind_some, hopen]
      rfl
    rw [completed_concat, hended, Option.toList_some, sum?_spent_concat, ← h.sections]
    exact lookup_accumulate ..
  names := nodup_map_fst_accumulate _ _ h.names

/-- The only stopwatch of the bench holds what the events say, and the open blocks are theirs. -/
structure Bench.Tells (b : Bench T) (events : List (Event T)) : Prop where
  current : b.current = 0
  watches : ∃ w, b.watches = [w] ∧ w.Tells events
  blocks : ∀ handle, (b.blocks.find? fun block => block.1 == handle) =
    (openBlock handle events.reverse).map fun block => (handle, 0, block)
  handles : (b.blocks.map Prod.fst).Nodup

namespace Bench

/-- The bench after a history. -/
def after (b : Bench T) (h : List (BenchAction T)) : Bench T := h.foldl (fun b a => (b.act a).1) b

theorem run_concat (b : Bench T) (h : List (BenchAction T)) (a : BenchAction T) :
    b.run (h ++ [a]) =
      b.run h ++ [(((b.after h).act a).2, ((b.after h).act a).1.isRunning)] := by
  induction h generalizing b with
  | nil => rfl
  | cons first h ih => exact congrArg (_ :: ·) (ih (b.act first).1)

theorem tells_fresh (now : T) : (fresh now).Tells [] where
  current := rfl
  watches := ⟨{}, rfl, .idle nofun, fun _ => rfl, List.nodup_nil⟩
  blocks := fun _ => rfl
  handles := List.nodup_nil

namespace Tells

variable {b : Bench T} {events : List (Event T)} {e : Event T}

theorem tells_watch (h : b.Tells events) : (b.watch b.current).Tells events := by
  obtain ⟨w, hw, hwatch⟩ := h.watches
  have hcurrent : b.watch b.current = w := by rw [watch, h.current, hw]; rfl
  exact hcurrent ▸ hwatch

/-- An event that is not about a block leaves the sections and the open blocks alone. -/
theorem of_phase (h : b.Tells events) (hhandle : e.action.handle? = none) {b' : Bench T}
    (hcurrent : b'.current = b.current) (hblocks : b'.blocks = b.blocks) {w : Stopwatch T}
    (hwatches : b'.watches = b.watches.set b.current w)
    (hsections : w.sections = (b.watch b.current).sections)
    (hphase : Phase (events ++ [e]) w.startedAt w.total) : b'.Tells (events ++ [e]) where
  current := hcurrent.trans h.current
  watches := by
    obtain ⟨old, hold, -⟩ := h.watches
    have hended : ended events.reverse e = none := by rw [ended, hhandle, Option.bind_none]; rfl
    refine ⟨w, by rw [hwatches, h.current, hold]; rfl, hphase, fun name => ?_, ?_⟩
    · rw [completed_concat, hended, Option.toList_none, List.append_nil, hsections]
      exact h.tells_watch.sections name
    · rw [hsections]
      exact h.tells_watch.names
  blocks := fun handle => by
    rw [List.reverse_concat, openBlock_cons_of_ne (hhandle ▸ (Option.some_ne_none handle).symm),
      hblocks]
    exact h.blocks handle
  handles := hblocks ▸ h.handles

/-- What is neither a start nor a stop that counts, and not about a block, leaves no trace. -/
theorem of_watches_eq (h : b.Tells events) (hhandle : e.action.handle? = none) {b' : Bench T}
    (hcurrent : b'.current = b.current) (hblocks : b'.blocks = b.blocks)
    (hwatches : b'.watches = b.watches)
    (hphase : Phase (events ++ [e]) (b.watch b.current).startedAt (b.watch b.current).total) :
    b'.Tells (events ++ [e]) := by
  refine h.of_phase hhandle hcurrent hblocks ?_ rfl hphase
  obtain ⟨w, hw, -⟩ := h.watches
  rw [hwatches, watch, h.current, hw]
  rfl

/-- The stopwatch and the open blocks once a handle is free, by an event that frees it. -/
theorem free (h : b.Tells events) {handle : String} (hhandle : e.action.handle? = some handle)
    (htime : e.time = b.now) :
    ((b.close handle).getD b).current = 0 ∧
      (∃ w, ((b.close handle).getD b).watches = [w] ∧ w.Tells (events ++ [e])) ∧
      (∀ handle', (((b.close handle).getD b).blocks.find? fun block => block.1 == handle') =
        if handle' = handle then none
        else (openBlock handle' events.reverse).map fun block => (handle', 0, block)) ∧
      (((b.close handle).getD b).blocks.map Prod.fst).Nodup := by
  obtain ⟨w, hw, hwatch⟩ := h.watches
  cases hopen : openBlock handle events.reverse with
  | none =>
      -- The handle stands for no block, so nothing is left.
      have hclose : b.close handle = none := by rw [close, h.blocks, hopen]; rfl
      have hended : ended events.reverse e = none := by
        rw [ended, hhandle, Option.bind_some, hopen]
        rfl
      obtain ⟨hstart, hstop⟩ := BenchAction.ne_of_handle?_eq_some hhandle
      rw [hclose, Option.getD_none]
      refine ⟨h.current, ⟨w, hw, hwatch.phase.concat hstart hstop, fun name => ?_, hwatch.names⟩,
        fun handle' => ?_, h.handles⟩
      · rw [completed_concat, hended, Option.toList_none, List.append_nil]
        exact hwatch.sections name
      · rw [h.blocks]
        split
        · next heq => rw [heq, hopen]; rfl
        · rfl
  | some block =>
      -- The block is left at the time of the event, and its handle forgotten.
      have hclose : b.close handle = some { b.setWatch 0 (w.leave e.time block) with
          blocks := b.blocks.eraseP fun other => other.1 == handle } := by
        have hwatch0 : b.watch 0 = w := by rw [watch, hw]; rfl
        rw [close, h.blocks, hopen, htime, ← hwatch0]
        rfl
      rw [hclose, Option.getD_some]
      refine ⟨h.current, ⟨w.leave e.time block, ?_, hwatch.leave hopen hhandle⟩, fun handle' => ?_,
        nodup_map_fst_eraseP h.handles _⟩
      · rw [Bench.setWatch, hw]
        rfl
      · exact (find?_eraseP h.handles handle handle').trans (by rw [h.blocks])

/-- A stop counts once there has been a start, and is refused before. -/
theorem stop (h : b.Tells events) : (b.act .stop).1.Tells (events ++ [⟨.stop, b.now⟩]) := by
  have hphase := h.tells_watch.phase
  cases hstarted : (b.watch b.current).startedAt with
  | none =>
      have hact : (b.act .stop).1 = b := by
        simp only [Bench.act, stopWatch, Stopwatch.stop, hstarted]
        rfl
      rw [hact]
      exact h.of_watches_eq rfl rfl rfl rfl (hstarted ▸ (hstarted ▸ hphase).stop_idle b.now)
  | some started =>
      have hact : (b.act .stop).1 =
          b.setWatch b.current { b.watch b.current with total := some (b.now - started) } := by
        simp only [Bench.act, stopWatch, Stopwatch.stop, hstarted]
        rfl
      rw [hact]
      exact h.of_phase rfl rfl rfl rfl rfl (hstarted ▸ (hstarted ▸ hphase).stop b.now)

/-- A handle that is entered is freed first, and then stands for the new block. -/
theorem enter (h : b.Tells events) (handle name : String) :
    (b.act (.enter handle name)).1.Tells (events ++ [⟨.enter handle name, b.now⟩]) := by
  obtain ⟨hcurrent, hwatches, hblocks, hhandles⟩ :=
    h.free (e := ⟨.enter handle name, b.now⟩) rfl rfl
  refine ⟨hcurrent, hwatches, fun handle' => ?_, ?_⟩
  · rw [List.reverse_concat]
    by_cases hhandle : handle = handle'
    · subst hhandle
      rw [openBlock_enter, Option.map_some, ← h.current]
      exact List.find?_cons_of_pos (beq_self_eq_true handle)
    · have hne : (⟨.enter handle name, b.now⟩ : Event T).action.handle? ≠ some handle' :=
        fun heq => hhandle (Option.some.inj heq)
      rw [openBlock_cons_of_ne hne]
      exact (List.find?_cons_of_neg (by rwa [beq_iff_eq])).trans
        ((hblocks handle').trans (if_neg (Ne.symm hhandle)))
  · refine List.nodup_cons.2 ⟨fun hmem => ?_, hhandles⟩
    obtain ⟨block, hblock, hfst⟩ := List.mem_map.1 hmem
    have hnone := (hblocks handle).trans (if_pos rfl)
    exact List.find?_eq_none.1 hnone block hblock (beq_iff_eq.2 hfst)

/-- A handle that is left is free, in whichever way it is left. -/
theorem leave (h : b.Tells events) (handle : String) (how : Leaving) :
    (b.act (.leave handle how)).1.Tells (events ++ [⟨.leave handle how, b.now⟩]) := by
  obtain ⟨hcurrent, hwatches, hblocks, hhandles⟩ :=
    h.free (e := ⟨.leave handle how, b.now⟩) rfl rfl
  have hact : (b.act (.leave handle how)).1 = (b.close handle).getD b := by
    simp only [Bench.act]
    cases b.close handle <;> rfl
  rw [hact]
  refine ⟨hcurrent, hwatches, fun handle' => ?_, hhandles⟩
  rw [hblocks, List.reverse_concat]
  by_cases hhandle : handle' = handle
  · subst hhandle
    rw [if_pos rfl, openBlock_leave]
    rfl
  · have hne : (⟨.leave handle how, b.now⟩ : Event T).action.handle? ≠ some handle' :=
      fun heq => hhandle (Option.some.inj heq).symm
    rw [if_neg hhandle, openBlock_cons_of_ne hne]

/-- Every action of its own keeps what the bench tells. -/
theorem act (h : b.Tells events) {a : BenchAction T} (ha : a.IsOwn) :
    (b.act a).1.Tells (events ++ [⟨a, b.now⟩]) := by
  have hphase := h.tells_watch.phase
  cases a with
  | «at» time => exact h.of_watches_eq rfl rfl rfl rfl (hphase.concat nofun nofun)
  | start => exact h.of_phase rfl rfl rfl rfl rfl (.start events b.now)
  | stop => exact h.stop
  | result => exact h.of_watches_eq rfl rfl rfl rfl (hphase.concat nofun nofun)
  | enter handle name => exact h.enter handle name
  | leave handle how => exact h.leave handle how
  | beginTimed => exact ha.elim
  | endTimed => exact ha.elim

end Tells

theorem now_act (b : Bench T) {a : BenchAction T} (ha : a.IsOwn) :
    (b.act a).1.now = a.clock b.now := by
  have hclose (handle : String) : ((b.close handle).getD b).now = b.now := by
    unfold close
    cases b.blocks.find? fun block => block.1 == handle <;> rfl
  cases a with
  | «at» time => rfl
  | start => rfl
  | stop =>
      simp only [act, stopWatch, Stopwatch.stop]
      cases (b.watch b.current).startedAt <;> rfl
  | result => rfl
  | enter handle name => exact hclose handle
  | leave handle how =>
      refine Eq.trans ?_ (hclose handle)
      simp only [act]
      cases b.close handle <;> rfl
  | beginTimed => exact ha.elim
  | endTimed => exact ha.elim

/-- What the events say holds after every history, by its last action. -/
theorem tells_after (now : T) (h : List (BenchAction T)) (hown : ∀ a ∈ h, a.IsOwn) :
    ((fresh now).after h).Tells (timeline now h) ∧ ((fresh now).after h).now = clockAfter now h := by
  -- From the end: the last action is performed on what all the others have left.
  induction h using List.reverseRecOn with
  | nil => exact ⟨tells_fresh now, rfl⟩
  | append_singleton h a ih =>
      obtain ⟨htells, hnow⟩ := ih fun a' ha' => hown a' (List.mem_append_left _ ha')
      have ha := hown a (List.mem_append_right _ List.mem_cons_self)
      have hafter : (fresh now).after (h ++ [a]) = (((fresh now).after h).act a).1 :=
        List.foldl_concat ..
      have hclock : clockAfter now (h ++ [a]) = a.clock (clockAfter now h) := List.foldl_concat ..
      rw [hafter, timeline_concat, hclock, ← hnow]
      exact ⟨htells.act ha, now_act _ ha⟩

end Bench

namespace Stopwatch

omit [Zero T] [Add T] [Sub T] in
theorem result_eq_ok_iff {w : Stopwatch T} {entries : List (String × T)} :
    w.result = .ok entries ↔ ∃ total, w.total = some total ∧
      entries = (totalName, (w.sections.lookup totalName).getD total) ::
        w.sections.filter fun s => s.1 != totalName := by
  rw [result, find?_eq_map_lookup]
  cases w.total with
  | none => exact ⟨nofun, fun ⟨_, htotal, _⟩ => nomatch htotal⟩
  | some total =>
      constructor
      · intro h
        exact ⟨total, rfl, (Except.ok.inj h).symm⟩
      · rintro ⟨_, htotal, rfl⟩
        rw [Option.some.inj htotal]

omit [Zero T] [Add T] [Sub T] in
theorem result_eq_error_iff {w : Stopwatch T} :
    (∃ fault, w.result = .error fault) ↔ w.total = none := by
  rw [result]
  cases w.total with
  | none => exact ⟨fun _ => rfl, fun _ => ⟨_, rfl⟩⟩
  | some total => exact ⟨fun ⟨_, h⟩ => (nomatch h), nofun⟩

namespace Tells

variable {w : Stopwatch T} {events : List (Event T)}

/-- The entries of a reading: the time from the latest start to the latest stop since, unless a section
has its name, and under every other name the sum of its blocks. -/
theorem result (h : w.Tells events) {entries : List (String × T)} (hresult : w.result = .ok entries) :
    (∃ started stopped since rest, LastAt .start events started since ∧
      LastAt .stop since stopped rest ∧
      entries.lookup totalName =
        some ((sum? (spent totalName (completed events))).getD (stopped - started))) ∧
      (∀ name, name ≠ totalName → entries.lookup name = sum? (spent name (completed events))) ∧
      (entries.map Prod.fst).Nodup := by
  obtain ⟨total, htotal, rfl⟩ := result_eq_ok_iff.1 hresult
  obtain ⟨started, stopped, since, rest, hstart, hstop, rfl⟩ := h.phase.total_eq_some_iff.1 htotal
  refine ⟨⟨started, stopped, since, rest, hstart, hstop, ?_⟩, fun name hname => ?_, ?_⟩
  · rw [List.lookup_cons_self, h.sections]
  · rw [List.lookup_cons, (beq_eq_false_iff_ne.2 hname : (name == totalName) = false)]
    exact (lookup_filter_ne _ hname).trans (h.sections name)
  · refine List.nodup_cons.2 ⟨fun hmem => ?_, h.names.sublist (List.filter_sublist.map _)⟩
    obtain ⟨entry, hentry, hfst⟩ := List.mem_map.1 hmem
    exact bne_iff_ne.1 (List.mem_filter.1 hentry).2 hfst

end Tells

end Stopwatch

/-- **After every history the stopwatch tells what its events say.**  A history is any calls of one
stopwatch under a clock; `events` are its actions with their times.  The first part says what one more
action adds to a run, and the others what it answers. -/
theorem Bench.tells_of_history (now : T) (h : List (BenchAction T)) (hown : ∀ a ∈ h, a.IsOwn) :
    let b := (fresh now).after h
    let events := timeline now h
    (∀ a, (fresh now).run (h ++ [a]) =
      (fresh now).run h ++ [((b.act a).2, (b.act a).1.isRunning)]) ∧
    (b.isRunning = true ↔
      ∃ started since, LastAt .start events started since ∧ ∀ e ∈ since, e.action ≠ .stop) ∧
    ((∃ fault, (b.act .stop).2 = .error fault) ↔ ¬∃ e ∈ events, e.action = .start) ∧
    ((∃ fault, (b.act .result).2 = .error fault) ↔
      ¬∃ started since, LastAt .start events started since ∧ ∃ e ∈ since, e.action = .stop) ∧
    ∀ reading, (b.act .result).2 = .ok reading → ∃ entries, reading = .times entries ∧
      (∃ started stopped since rest, LastAt .start events started since ∧
        LastAt .stop since stopped rest ∧
        entries.lookup Stopwatch.totalName =
          some ((sum? (spent Stopwatch.totalName (completed events))).getD (stopped - started))) ∧
      (∀ name, name ≠ Stopwatch.totalName →
        entries.lookup name = sum? (spent name (completed events))) ∧
      (entries.map Prod.fst).Nodup := by
  intro b events
  have htells : (b.watch b.current).Tells events := (tells_after now h hown).1.tells_watch
  refine ⟨fun a => run_concat _ h a, htells.phase.isRunning_iff, ?_, ?_, fun reading hreading => ?_⟩
  · rw [← htells.phase.startedAt_eq_none_iff]
    simp only [act, stopWatch, Stopwatch.stop]
    cases (b.watch b.current).startedAt with
    | none => exact ⟨fun _ => rfl, fun _ => ⟨_, rfl⟩⟩
    | some started => exact ⟨fun ⟨_, hstop⟩ => (nomatch hstop), nofun⟩
  · have hresult : (∃ fault, (b.act .result).2 = .error fault) ↔ (b.watch b.current).total = none :=
      (exists_congr fun _ => map_eq_error_iff).trans Stopwatch.result_eq_error_iff
    exact hresult.trans htells.phase.total_eq_none_iff
  · obtain ⟨entries, hentries, rfl⟩ := map_eq_ok_iff.1 hreading
    exact ⟨entries, rfl, htells.result hentries⟩

/-- Two blocks of one name that overlap, the first of them across a start and a refused stop; one is left
by a failure. -/
theorem Bench.tells_of_history_overlapping :
    let h : List (BenchAction Int) := [.stop, .at 1, .enter "a" "x", .start, .at 3, .enter "b" "x",
      .at 4, .leave "a" .normally, .start, .at 9, .stop, .at 10, .leave "b" .byFailure, .stop]
    let b := (fresh 0).after h
    (∀ a ∈ h, a.IsOwn) ∧ b.isRunning = false ∧
      (b.act .result).2 = .ok (.times [("total_seconds", 6), ("x", 10)]) ∧
      sum? (spent "x" (completed (timeline 0 h))) = some 10 := by
  intro h b
  have hown : ∀ a ∈ h, a.IsOwn := by simp [h, BenchAction.IsOwn]
  have hresult : (b.act .result).2 = .ok (.times [("total_seconds", 6), ("x", 10)]) := by rfl
  obtain ⟨entries, hentries, -, hsections, -⟩ := (tells_of_history 0 h hown).2.2.2.2 _ hresult
  cases hentries
  exact ⟨hown, rfl, hresult, (hsections "x" (by decide)).symm⟩

end LinearSystems
