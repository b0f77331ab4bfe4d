import Mathlib
import LinearSystems.Proofs.Stopwatch.Histories

/-!
# The order in which sections are listed

A section gets its entry when a block of its name is left for the first time, and it keeps its place
from then on (`Bench.sections_after`, `map_fst_accumulated`).  So a reading lists the sections in
the order in which they were first **left**: of two nested blocks the inner one comes first,
although it was entered last (`Bench.inner_section_listed_first`).

The entries stand in the order in which the names were first *entered* exactly if that is the order
in which they were first left (`Bench.listed_as_entered_iff`), as it is when no block is entered
inside another (`leftNames_eq_enteredNames`).
-/

namespace LinearSystems

variable {T : Type}

/-! ## Names in the order of entering and of leaving -/

/-- The name of the block that an action enters. -/
def BenchAction.entered? : BenchAction T → Option String
  | enter _ name => some name
  | _ => none

/-- The names of the blocks that some events enter, in the order of entering. -/
def enteredNames (events : List (Event T)) : List String :=
  events.filterMap fun e => e.action.entered?

/-- The names of the blocks that some events leave, in the order of leaving. -/
def leftNames (events : List (Event T)) : List String := (completed events).map fun b => b.1.name

/-- No block is under way. -/
def AllLeft (events : List (Event T)) : Prop := ∀ handle, openBlock handle events.reverse = none

/-- A block of this name is under way. -/
def IsOpen (name : String) (events : List (Event T)) : Prop :=
  ∃ handle block, openBlock handle events.reverse = some block ∧ block.name = name

/-- No block is entered while another one is under way. -/
def NoneInside (events : List (Event T)) : Prop :=
  ∀ before e after, events = before ++ e :: after → e.action.entered?.isSome = true → AllLeft before

section Events

variable {e : Event T} {handle : String}

theorem openBlock_cons_self (h : e.action.handle? = some handle) (past : List (Event T)) :
    openBlock handle (e :: past) = e.action.entered?.map (⟨·, e.time⟩) := by
  obtain ⟨action, t⟩ := e
  cases action with
  | enter handle' name =>
      obtain rfl := Option.some.inj h
      exact openBlock_enter handle' name t past
  | leave handle' how =>
      obtain rfl := Option.some.inj h
      exact openBlock_leave handle' how t past
  | _ => cases h

theorem entered?_eq_none (h : e.action.handle? = none) : e.action.entered? = none := by
  obtain ⟨action, t⟩ := e
  cases action <;> first | rfl | cases h

theorem ended_of_handle?_eq_none (h : e.action.handle? = none) (past : List (Event T)) :
    ended past e = none := by
  rw [ended, h]
  rfl

theorem ended_of_handle?_eq_some (h : e.action.handle? = some handle) (past : List (Event T)) :
    ended past e = (openBlock handle past).map (·, e.time) := by
  rw [ended, h, Option.bind_some]

theorem enteredNames_concat (events : List (Event T)) (e : Event T) :
    enteredNames (events ++ [e]) = enteredNames events ++ e.action.entered?.toList := by
  rw [enteredNames, List.filterMap_append, ← enteredNames]
  cases h : e.action.entered? <;> simp [h]

theorem leftNames_concat (events : List (Event T)) (e : Event T) :
    leftNames (events ++ [e]) =
      leftNames events ++ ((ended events.reverse e).map fun b => b.1.name).toList := by
  rw [leftNames, completed_concat, List.map_append, ← leftNames]
  cases ended events.reverse e <;> rfl

/-- To see that no block is under way it is enough to look under the handles that occur. -/
theorem allLeft_iff {events : List (Event T)} :
    AllLeft events ↔ ∀ e ∈ events, (ended events.reverse e).isNone = true := by
  simp only [Option.isNone_iff_eq_none]
  constructor
  · intro h e _
    cases hhandle : e.action.handle? with
    | none => exact ended_of_handle?_eq_none hhandle _
    | some handle => rw [ended_of_handle?_eq_some hhandle, h handle, Option.map_none]
  · intro h handle
    rw [openBlock]
    cases hfound : events.reverse.find? fun e => e.action.handle? == some handle with
    | none => rfl
    | some e =>
        have htest := List.find?_some hfound
        have hhandle : e.action.handle? = some handle := eq_of_beq htest
        have hclosed := h e (List.mem_reverse.1 (List.mem_of_find?_eq_some hfound))
        rw [ended_of_handle?_eq_some hhandle, Option.map_eq_none_iff, openBlock, hfound] at hclosed
        exact hclosed

instance (events : List (Event T)) : Decidable (AllLeft events) :=
  decidable_of_iff _ allLeft_iff.symm

/-- A block of the name is under way under this handle or under another one. -/
theorem isOpen_iff (handle : String) (events : List (Event T)) {name : String} :
    IsOpen name events ↔ (openBlock handle events.reverse).map Block.name = some name ∨
      ∃ handle' block, handle' ≠ handle ∧ openBlock handle' events.reverse = some block ∧
        block.name = name := by
  rw [Option.map_eq_some_iff]
  constructor
  · rintro ⟨handle', block, hopen, hname⟩
    by_cases hsame : handle' = handle
    · exact Or.inl ⟨block, hsame ▸ hopen, hname⟩
    · exact Or.inr ⟨handle', block, hsame, hopen, hname⟩
  · rintro (⟨block, hopen, hname⟩ | ⟨handle', block, -, hopen, hname⟩)
    · exact ⟨handle, block, hopen, hname⟩
    · exact ⟨handle', block, hopen, hname⟩

theorem openBlock_concat_of_handle?_eq_none (h : e.action.handle? = none) (events : List (Event T))
    (handle : String) :
    openBlock handle (events ++ [e]).reverse = openBlock handle events.reverse := by
  rw [List.reverse_concat, openBlock_cons_of_ne (h ▸ (Option.some_ne_none handle).symm)]

theorem openBlock_concat_of_ne (h : e.action.handle? = some handle) {handle' : String}
    (hne : handle' ≠ handle) (events : List (Event T)) :
    openBlock handle' (events ++ [e]).reverse = openBlock handle' events.reverse := by
  rw [List.reverse_concat, openBlock_cons_of_ne (h ▸ fun heq => hne (Option.some.inj heq).symm)]

theorem openBlock_concat_self (h : e.action.handle? = some handle) (events : List (Event T)) :
    openBlock handle (events ++ [e]).reverse = e.action.entered?.map (⟨·, e.time⟩) := by
  rw [List.reverse_concat, openBlock_cons_self h]

end Events

/-- **What has been entered has been left or is under way.** -/
theorem mem_enteredNames_iff {name : String} (events : List (Event T)) :
    name ∈ enteredNames events ↔ name ∈ leftNames events ∨ IsOpen name events := by
  induction events using List.reverseRecOn with
  | nil =>
      refine iff_of_false List.not_mem_nil fun h => ?_
      obtain hmem | ⟨_, _, hopen, -⟩ := h
      · exact List.not_mem_nil hmem
      · cases hopen
  | append_singleton events e ih =>
      rw [enteredNames_concat, leftNames_concat, List.mem_append, List.mem_append, ih,
        Option.mem_toList, Option.mem_toList]
      cases hhandle : e.action.handle? with
      | none =>
          have hsame := openBlock_concat_of_handle?_eq_none hhandle events
          rw [entered?_eq_none hhandle, ended_of_handle?_eq_none hhandle, IsOpen, IsOpen]
          simp only [hsame, Option.map_none, reduceCtorEq, or_false]
      | some handle =>
          -- The block under the handle of the event is left now; those under others stay under way.
          have hothers : (∃ handle' block, handle' ≠ handle ∧
                openBlock handle' (events ++ [e]).reverse = some block ∧ block.name = name) ↔
              ∃ handle' block, handle' ≠ handle ∧ openBlock handle' events.reverse = some block ∧
                block.name = name := by
            refine exists₂_congr fun handle' block => and_congr_right fun hne => ?_
            rw [openBlock_concat_of_ne hhandle hne]
          have hnew : (openBlock handle (events ++ [e]).reverse).map Block.name =
              e.action.entered? := by
            rw [openBlock_concat_self hhandle, Option.map_map]
            exact Option.map_id'
          have hended : ((ended events.reverse e).map fun b => b.1.name) =
              (openBlock handle events.reverse).map Block.name := by
            rw [ended_of_handle?_eq_some hhandle, Option.map_map]
            rfl
          rw [isOpen_iff handle events, isOpen_iff handle (events ++ [e]), hothers, hnew, hended,
            or_assoc, or_assoc, or_assoc, or_comm (b := e.action.entered? = some name)]

/-- Where no block is under way, the same names have been entered and left. -/
theorem mem_leftNames_iff {name : String} {events : List (Event T)} (h : AllLeft events) :
    name ∈ leftNames events ↔ name ∈ enteredNames events := by
  have hclosed : ¬ IsOpen name events := by
    rintro ⟨handle, _, hopen, -⟩
    rw [h handle] at hopen
    cases hopen
  rw [mem_enteredNames_iff, or_iff_left hclosed]

/-! ## Blocks that are not entered inside one another -/

section Inside

variable {events : List (Event T)} {e : Event T} {handle handle' : String} {block : Block T}

/-- This block is under way and no other one. -/
def OnlyOpen (handle : String) (block : Block T) (events : List (Event T)) : Prop :=
  openBlock handle events.reverse = some block ∧
    ∀ handle', handle' ≠ handle → openBlock handle' events.reverse = none

/-- Entering a block while none is under way. -/
theorem AllLeft.enter (h : AllLeft events) (hhandle : e.action.handle? = some handle)
    {name : String} (hentered : e.action.entered? = some name) :
    OnlyOpen handle ⟨name, e.time⟩ (events ++ [e]) := by
  constructor
  · rw [openBlock_concat_self hhandle, hentered, Option.map_some]
  · intro handle' hne
    rw [openBlock_concat_of_ne hhandle hne, h]

/-- What ends a block and enters none leaves none under way if the others were left before. -/
theorem allLeft_leave (hhandle : e.action.handle? = some handle)
    (hentered : e.action.entered? = none)
    (h : ∀ handle', handle' ≠ handle → openBlock handle' events.reverse = none) :
    AllLeft (events ++ [e]) := by
  intro handle'
  by_cases hsame : handle' = handle
  · rw [hsame, openBlock_concat_self hhandle, hentered, Option.map_none]
  · rw [openBlock_concat_of_ne hhandle hsame, h handle' hsame]

theorem OnlyOpen.leave_of_ne (h : OnlyOpen handle' block events)
    (hhandle : e.action.handle? = some handle) (hentered : e.action.entered? = none)
    (hne : handle' ≠ handle) : OnlyOpen handle' block (events ++ [e]) := by
  refine ⟨(openBlock_concat_of_ne hhandle hne events).trans h.1, fun other hother => ?_⟩
  by_cases hsame : other = handle
  · rw [hsame, openBlock_concat_self hhandle, hentered, Option.map_none]
  · rw [openBlock_concat_of_ne hhandle hsame, h.2 other hother]

/-- Where no block is entered inside another, at most one is under way, and its name is the only one
that is still to be left. -/
theorem enteredNames_eq_append (h : NoneInside events) :
    (AllLeft events ∧ enteredNames events = leftNames events) ∨
      ∃ handle block, OnlyOpen handle block events ∧
        enteredNames events = leftNames events ++ [block.name] := by
  induction events using List.reverseRecOn with
  | nil => exact Or.inl ⟨fun _ => rfl, rfl⟩
  | append_singleton events e ih =>
      have hbefore : NoneInside events := fun before e' after heq hentered =>
        h before e' (after ++ [e]) (by rw [heq, List.append_assoc, List.cons_append]) hentered
      rw [enteredNames_concat, leftNames_concat]
      cases hhandle : e.action.handle? with
      | none =>
          rw [entered?_eq_none hhandle, ended_of_handle?_eq_none hhandle]
          simp only [AllLeft, OnlyOpen, openBlock_concat_of_handle?_eq_none hhandle events,
            Option.map_none, Option.toList_none, List.append_nil]
          exact ih hbefore
      | some handle =>
          rw [ended_of_handle?_eq_some hhandle]
          obtain ⟨hall, heq⟩ | ⟨handle', block, hopen, heq⟩ := ih hbefore
          · -- Nothing is under way, so the event leaves nothing; it may enter a block.
            rw [hall handle, heq]
            cases hentered : e.action.entered? with
            | none =>
                exact Or.inl ⟨allLeft_leave hhandle hentered fun handle' _ => hall handle', rfl⟩
            | some name =>
                refine Or.inr ⟨handle, _, hall.enter hhandle hentered, ?_⟩
                exact congrArg (· ++ _) (List.append_nil _).symm
          · -- One block is under way, so the event enters none; it may leave that one.
            have hentered : e.action.entered? = none := by
              by_contra hsome
              have hall := h events e [] rfl (Option.isSome_iff_ne_none.2 hsome)
              exact Option.some_ne_none block (hopen.1.symm.trans (hall handle'))
            rw [hentered, Option.toList_none, List.append_nil, heq]
            by_cases hsame : handle' = handle
            · subst hsame
              rw [hopen.1]
              exact Or.inl ⟨allLeft_leave hhandle hentered hopen.2, rfl⟩
            · rw [hopen.2 handle (Ne.symm hsame)]
              refine Or.inr ⟨handle', block, hopen.leave_of_ne hhandle hentered hsame, ?_⟩
              exact congrArg (· ++ _) (List.append_nil _).symm

end Inside

/-- **Blocks that are not entered inside one another are left in the order of entering.** -/
theorem leftNames_eq_enteredNames {events : List (Event T)} (hinside : NoneInside events)
    (hleft : AllLeft events) : leftNames events = enteredNames events := by
  obtain ⟨-, heq⟩ | ⟨handle, block, hopen, -⟩ := enteredNames_eq_append hinside
  · exact heq.symm
  · exact absurd (hopen.1.symm.trans (hleft handle)) (Option.some_ne_none block)

/-! ## Entries -/

variable [Zero T] [Add T] [Sub T]

/-- A block that is left adds its time to the entry of its name. -/
def absorb (sections : List (String × T)) (b : Block T × T) : List (String × T) :=
  Stopwatch.accumulate b.1.name (b.2 - b.1.enteredAt) sections

/-- The sections that some blocks make, in the order in which they are left. -/
def accumulated (blocks : List (Block T × T)) : List (String × T) := blocks.foldl absorb []

theorem eraseDups_concat (l : List String) (a : String) :
    (l ++ [a]).eraseDups = if a ∈ l then l.eraseDups else l.eraseDups ++ [a] := by
  rw [List.eraseDups_append]
  split
  · next h => simp [List.removeAll, h]
  · next h => simp [List.removeAll, h, List.eraseDups_cons]

/-- **Each name stands where it was first left.** -/
theorem map_fst_accumulated (blocks : List (Block T × T)) :
    (accumulated blocks).map Prod.fst = (blocks.map fun b => b.1.name).eraseDups := by
  induction blocks using List.reverseRecOn with
  | nil => rfl
  | append_singleton blocks b ih =>
      rw [accumulated, List.foldl_concat, ← accumulated, absorb, Stopwatch.map_fst_accumulate, ih,
        List.map_append, List.map_singleton, eraseDups_concat]
      simp only [List.mem_eraseDups]

namespace Bench

variable {b : Bench T} {events : List (Event T)}

namespace Tells

/-- Freeing a handle adds the block under way there, if there is one. -/
theorem sections_close (h : b.Tells events) {e : Event T} {handle : String}
    (hhandle : e.action.handle? = some handle) (htime : e.time = b.now) :
    (((b.close handle).getD b).watch 0).sections =
      (ended events.reverse e).toList.foldl absorb (b.watch 0).sections := by
  obtain ⟨w, hw, -⟩ := h.watches
  rw [ended_of_handle?_eq_some hhandle, close, h.blocks, htime]
  cases openBlock handle events.reverse with
  | none => rfl
  | some block =>
      simp only [Option.map_some, Option.getD_some, Option.toList_some, List.foldl_cons,
        List.foldl_nil, watch, setWatch, hw]
      rfl

/-- Every action of its own adds the blocks that it ends. -/
theorem sections_act (h : b.Tells events) {a : BenchAction T} (ha : a.IsOwn) :
    ((b.act a).1.watch 0).sections =
      (ended events.reverse ⟨a, b.now⟩).toList.foldl absorb (b.watch 0).sections := by
  obtain ⟨w, hw, -⟩ := h.watches
  have hwatch : b.watch 0 = w := by rw [watch, hw]; rfl
  cases a with
  | «at» time => rfl
  | start =>
      show ((b.setWatch b.current _).watch 0).sections = (b.watch 0).sections
      rw [h.current, hwatch, watch, setWatch, hw]
      rfl
  | stop =>
      show _ = (b.watch 0).sections
      simp only [Bench.act, stopWatch, Stopwatch.stop, h.current, hwatch]
      cases w.startedAt with
      | none => exact congrArg _ hwatch
      | some started =>
          show ((b.setWatch 0 _).watch 0).sections = _
          rw [watch, setWatch, hw]
          rfl
  | result => rfl
  | enter handle name => exact h.sections_close (e := ⟨.enter handle name, b.now⟩) rfl rfl
  | leave handle how =>
      have hact : (b.act (.leave handle how)).1 = (b.close handle).getD b := by
        simp only [Bench.act]
        cases b.close handle <;> rfl
      rw [hact]
      exact h.sections_close rfl rfl
  | beginTimed => exact ha.elim
  | endTimed => exact ha.elim

end Tells

/-- **After every history the sections are what its completed blocks make.** -/
theorem sections_after (now : T) (h : List (BenchAction T)) (hown : ∀ a ∈ h, a.IsOwn) :
    (((fresh now).after h).watch 0).sections = accumulated (completed (timeline now h)) := by
  -- From the end: the last action adds what it ends to what all the others have made.
  induction h using List.reverseRecOn with
  | nil => rfl
  | append_singleton h a ih =>
      have hrest : ∀ a' ∈ h, a'.IsOwn := fun a' ha' => hown a' (List.mem_append_left _ ha')
      have ha := hown a (List.mem_append_right _ List.mem_cons_self)
      obtain ⟨htells, hnow⟩ := tells_after now h hrest
      have hafter : (fresh now).after (h ++ [a]) = (((fresh now).after h).act a).1 :=
        List.foldl_concat ..
      rw [hafter, htells.sections_act ha, ih hrest, timeline_concat, completed_concat, hnow,
        accumulated, accumulated, List.foldl_append]

end Bench

/-- **A stopped stopwatch lists the total and then every section once, in the order in which the
names were first left.**  That is the order in which they were first entered exactly if the two
orders agree, and they do if no block is entered inside another.  The history may be any calls of
one stopwatch under a clock, in which there was a stop since the latest start, every block that is
entered is left and none has the name of the total. -/
theorem Bench.listed_as_entered_iff (now : T) (h : List (BenchAction T)) (hown : ∀ a ∈ h, a.IsOwn)
    (hstopped : ∃ started since, LastAt .start (timeline now h) started since ∧
      ∃ e ∈ since, e.action = .stop)
    (hleft : AllLeft (timeline now h))
    (hname : Stopwatch.totalName ∉ enteredNames (timeline now h)) :
    let events := timeline now h
    ∃ entries, (((fresh now).after h).act .result).2 = .ok (.times entries) ∧
      let names := entries.map Prod.fst
      names = Stopwatch.totalName :: (leftNames events).eraseDups ∧ names.Nodup ∧
      (∀ name, name ∈ leftNames events ↔ name ∈ enteredNames events) ∧
      (names = Stopwatch.totalName :: (enteredNames events).eraseDups ↔
        (leftNames events).eraseDups = (enteredNames events).eraseDups) ∧
      (NoneInside events → names = Stopwatch.totalName :: (enteredNames events).eraseDups) := by
  intro events
  have htells := (tells_after now h hown).1
  have hmem (name : String) : name ∈ leftNames events ↔ name ∈ enteredNames events :=
    mem_leftNames_iff hleft
  obtain ⟨total, htotal⟩ := Option.ne_none_iff_exists'.1 fun hnone =>
    htells.tells_watch.phase.total_eq_none_iff.1 hnone hstopped
  have hentries := Stopwatch.result_eq_ok_iff.2 ⟨total, htotal, rfl⟩
  refine ⟨_, map_eq_ok_iff.2 ⟨_, hentries, rfl⟩, ?_⟩
  intro names
  have hsections :
      (((fresh now).after h).watch ((fresh now).after h).current).sections.map Prod.fst =
        (leftNames events).eraseDups := by
    rw [htells.current, sections_after now h hown, map_fst_accumulated, leftNames]
  have hnames : names = Stopwatch.totalName :: (leftNames events).eraseDups := by
    show List.map Prod.fst _ = _
    rw [List.map_cons, ← hsections]
    congr 2
    -- No section has the name of the total, so none is kept back.
    refine List.filter_eq_self.2 fun entry hentry => bne_iff_ne.2 fun hsame => hname ?_
    rw [← hmem, ← hsame, ← List.mem_eraseDups, ← hsections]
    exact List.mem_map_of_mem hentry
  have hagree : names = Stopwatch.totalName :: (enteredNames events).eraseDups ↔
      (leftNames events).eraseDups = (enteredNames events).eraseDups := by
    rw [hnames, List.cons.injEq]
    exact and_iff_right rfl
  refine ⟨hnames, (htells.tells_watch.result hentries).2.2, hmem, hagree, fun hinside => ?_⟩
  exact hagree.2 (congrArg _ (leftNames_eq_enteredNames hinside hleft))

/-- Sections that repeat and overlap, listed as entered: the first blocks of both names are left in
the order of entering, though later ones are not. -/
theorem Bench.listed_as_entered_overlapping :
    let h : List (BenchAction Int) := [.enter "a" "x", .start, .at 1, .enter "b" "y", .at 2,
      .leave "a" .normally, .at 5, .leave "b" .byFailure, .enter "a" "y", .enter "b" "x", .at 6,
      .leave "b" .normally, .leave "a" .normally, .stop]
    (∀ a ∈ h, a.IsOwn) ∧ AllLeft (timeline 0 h) ∧
      Stopwatch.totalName ∉ enteredNames (timeline 0 h) ∧
      (((fresh 0).after h).act .result).2 =
        .ok (.times [("total_seconds", 6), ("x", 3), ("y", 5)]) ∧
      (leftNames (timeline 0 h)).eraseDups = (enteredNames (timeline 0 h)).eraseDups := by
  intro h
  have hown : ∀ a ∈ h, a.IsOwn := by simp [h, BenchAction.IsOwn]
  have hleft : AllLeft (timeline 0 h) := by decide
  have hname : Stopwatch.totalName ∉ enteredNames (timeline 0 h) := by decide
  have hstopped : ∃ started since, LastAt .start (timeline 0 h) started since ∧
      ∃ e ∈ since, e.action = .stop :=
    ⟨_, _, ⟨⟨[⟨.enter "a" "x", 0⟩], rfl⟩, by simp [timeline]⟩, ⟨.stop, 6⟩,
      by simp [timeline, BenchAction.clock], rfl⟩
  have hresult : (((fresh 0).after h).act .result).2 =
      .ok (.times [("total_seconds", 6), ("x", 3), ("y", 5)]) := by rfl
  obtain ⟨entries, hentries, -, -, -, hagree, -⟩ :=
    listed_as_entered_iff 0 h hown hstopped hleft hname
  rw [hresult] at hentries
  cases hentries
  exact ⟨hown, hleft, hname, hresult, hagree.1 (by decide)⟩

/-- Of two nested sections the one inside is listed first. -/
theorem Bench.inner_section_listed_first :
    let h : List (BenchAction Int) := [.start, .enter "a" "outer", .enter "b" "inner",
      .leave "b" .normally, .leave "a" .normally, .stop]
    (∀ a ∈ h, a.IsOwn) ∧ AllLeft (timeline 0 h) ∧
      enteredNames (timeline 0 h) = ["outer", "inner"] ∧
      (((fresh 0).after h).act .result).2 =
        .ok (.times [("total_seconds", 0), ("inner", 0), ("outer", 0)]) := by
  intro h
  exact ⟨by simp [h, BenchAction.IsOwn], by decide, by decide, by rfl⟩

end LinearSystems
