import Tutti.Foundation.OrderedDict
import Tutti.Foundation.Run
import Tutti.Runtime.DataPath

/-!
# PRP pages of `LocalNvmeDataPath`

The commands of an op fetch PRP lists from pages of the host pool or of the page cache. A
command is known to have finished once its status was read back and is not a timeout. The
op keeps its pages while it is in the table, and `release` and `shutdown` keep them on if
`has_timeout` is set, which happens only where the statuses are read back.

The pin count of a cached page and the lease of a pool page are kept as the references
that make them up, one for each op and page.
-/

namespace Tutti.LocalNvme

open Foundation List
open OrderedDict hiding keys

/-- A page that holds a PRP list. -/
inductive Page where
  | pool (page : Nat)
  | cache (slot : Nat)
  deriving DecidableEq, Repr

/-- An issued entry with the page of its PRP list, if it needs one, and whether it is known
to have finished. -/
structure Entry where
  page : Option Page
  finished : Bool := false
  deriving DecidableEq, Repr

structure OpEntry where
  state : IoState
  hasTimeout : Bool := false
  entries : List Entry
  deriving DecidableEq, Repr

/-- What reading the statuses of an op back gives: the result of each entry, or an error of
the copy. -/
abbrev StatusRead := Option (Nat → Nat)

/-- The result of an entry whose command timed out. -/
def timeoutResult : Nat := 2

/-- What follows the launch: the event is recorded, or the stream is synchronised, which
may fail too. -/
inductive Recorded where
  | event
  | synchronized (read : StatusRead)
  | syncFailed

inductive Polled where
  | notReady
  | ready (read : StatusRead)
  | queryError

/-- `orphans` lists the pages of unfinished entries whose op has left the table. -/
structure DataPath where
  ops : OrderedDict Nat OpEntry := ∅
  nextOpToken : Nat := 1
  held : List (Nat × Page) := []
  timeoutPrpRetained : Bool := false
  orphans : List (Nat × Page) := []
  shut : Bool := false

inductive Action where
  /-- A submit that launches, with the page of each entry; `fresh` are the pages from the
  pool and the cache slots that are written anew, the others are cached pages used as they
  are. -/
  | submit (fresh : List Page) (pages : List (Option Page)) (recorded : Recorded)
  | poll (token : Nat) (polled : Polled)
  | release (token : Nat)
  | shutdown

namespace OpEntry

/-- The pages of entries that the controller possibly still owns. -/
def unfinished (op : OpEntry) : List Page :=
  (op.entries.filter fun entry => !entry.finished).filterMap Entry.page

/-- `aggregate_completion_status_`. -/
def aggregate (op : OpEntry) : StatusRead → OpEntry
  | none => { op with state := .failed }
  | some results =>
    let read := (range op.entries.length).map results
    { state := if read.all (· == 0) then .completed else .failed
      hasTimeout := op.hasTimeout || read.contains timeoutResult
      entries := op.entries.mapIdx fun index entry =>
        { entry with finished := results index != timeoutResult } }

def recorded (op : OpEntry) : Recorded → OpEntry
  | .event => op
  | .synchronized read => op.aggregate read
  | .syncFailed => { op with state := .failed }

def polled (op : OpEntry) : Polled → OpEntry
  | .notReady => op
  | .ready read => op.aggregate read
  | .queryError => { op with state := .failed }

/-- What an op is sure of: its pages are held, and once it is terminal an unfinished entry
shows in `has_timeout`. -/
structure Sound (op : OpEntry) (held : List (Nat × Page)) (token : Nat) : Prop where
  pages : ∀ entry ∈ op.entries, ∀ page ∈ entry.page, (token, page) ∈ held
  flagged : op.state ≠ .inFlight → op.unfinished ≠ [] → op.hasTimeout = true

variable {op : OpEntry} {held more : List (Nat × Page)} {token : Nat}

theorem mem_unfinished {page : Page} :
    page ∈ op.unfinished ↔
      ∃ entry ∈ op.entries, entry.finished = false ∧ entry.page = some page := by
  unfold unfinished
  simp [and_assoc]

/-- Reading the statuses back leaves an entry unfinished only with a timeout. -/
theorem Sound.aggregate (pages : ∀ entry ∈ op.entries, ∀ page ∈ entry.page, (token, page) ∈ held)
    (results : Nat → Nat) : (op.aggregate (some results)).Sound held token := by
  refine ⟨fun entry member page named => ?_, fun _ some => ?_⟩
  · obtain ⟨index, inside, rfl⟩ := mem_mapIdx.mp member
    exact pages _ (getElem_mem inside) page named
  obtain ⟨page, member⟩ := exists_mem_of_ne_nil _ some
  obtain ⟨entry, listed, open_, _⟩ := mem_unfinished.mp member
  obtain ⟨index, inside, rfl⟩ := mem_mapIdx.mp listed
  have timedOut : results index = timeoutResult := by
    simpa only [bne_eq_false_iff_eq] using open_
  refine Bool.or_eq_true_iff.mpr (.inr (contains_iff_mem.mpr ?_))
  exact mem_map.mpr ⟨index, mem_range.mpr inside, timedOut⟩

theorem Sound.mono (sound : op.Sound held token)
    (keeps : ∀ page, (token, page) ∈ held → (token, page) ∈ more) : op.Sound more token :=
  ⟨fun entry member page named => keeps page (sound.pages entry member page named), sound.flagged⟩

end OpEntry

namespace DataPath

/-- Neither leased nor pinned: what the pool and the cache may hand out. -/
def Unheld (path : DataPath) (page : Page) : Prop := ∀ reference ∈ path.held, reference.2 ≠ page
  deriving Decidable

/-- An entry of the page is possibly still owned by the controller. -/
def Live (path : DataPath) (page : Page) : Prop :=
  (∃ token op, path.ops.get? token = some op ∧ page ∈ op.unfinished) ∨
    ∃ reference ∈ path.orphans, reference.2 = page

def submit (path : DataPath) (fresh : List Page) (pages : List (Option Page))
    (recorded : Recorded) : DataPath :=
  if path.shut = false ∧ ∀ page ∈ fresh, path.Unheld page then
    let op : OpEntry := { state := .inFlight, entries := pages.map ({ page := · }) }
    { path with
      ops := path.ops.set path.nextOpToken (op.recorded recorded)
      nextOpToken := path.nextOpToken + 1
      held := path.held ++ (pages.filterMap id).map (path.nextOpToken, ·) }
  else path

def poll (path : DataPath) (token : Nat) (polled : Polled) : DataPath :=
  match path.ops.get? token with
  | none => path
  | some op =>
    if op.state = .inFlight then { path with ops := path.ops.set token (op.polled polled) }
    else path

/-- `release_impl_`: the references of an op with a timeout stay. -/
def release (path : DataPath) (token : Nat) : DataPath :=
  match path.ops.get? token with
  | none => path
  | some op =>
    if op.state = .inFlight then path
    else
      { path with
        ops := path.ops.erase token
        timeoutPrpRetained := path.timeoutPrpRetained || op.hasTimeout
        held := if op.hasTimeout then path.held
          else path.held.filter fun reference => reference.1 != token
        orphans := path.orphans ++ op.unfinished.map (token, ·) }

/-- No op is in flight, so that `shutdown_impl_` goes through. -/
def Drained (path : DataPath) : Prop := ∀ pair ∈ path.ops.entries, pair.2.state ≠ .inFlight
  deriving Decidable

/-- `any_timeout` of `shutdown_impl_`; the cache and the pool are unmapped without it. -/
def anyTimeout (path : DataPath) : Bool := path.ops.entries.any fun pair => pair.2.hasTimeout

def shutdown (path : DataPath) : DataPath :=
  if path.Drained then { path with ops := ∅, shut := true } else path

def step (path : DataPath) : Action → DataPath
  | .submit fresh pages recorded => path.submit fresh pages recorded
  | .poll token polled => path.poll token polled
  | .release token => path.release token
  | .shutdown => path.shutdown

/-- No page of an entry that the controller possibly owns is handed out, rewritten or
unmapped. -/
def Spares (path : DataPath) : Action → Prop
  | .submit fresh _ _ => path.shut = false → (∀ page ∈ fresh, path.Unheld page) →
      ∀ page ∈ fresh, ¬ path.Live page
  | .shutdown => path.shut = false → path.Drained → path.anyTimeout = false →
      ∀ page, ¬ path.Live page
  | _ => True

/-- An op becomes terminal only where its statuses are read back, and a path that has
released an op with a timeout is shut down only with another one in the table. -/
def Certain (path : DataPath) : Action → Prop
  | .submit _ _ recorded => recorded = .event ∨ ∃ results, recorded = .synchronized (some results)
  | .poll _ polled => polled = .notReady ∨ ∃ results, polled = .ready (some results)
  | .shutdown => path.timeoutPrpRetained = true → path.anyTimeout = true
  | .release _ => True

/-! ## Pages that are held -/

/-- The pages of unfinished entries are held, by an op in the table or for good. -/
structure Kept (path : DataPath) : Prop where
  sound : ∀ token op, path.ops.get? token = some op →
    token < path.nextOpToken ∧ op.Sound path.held token
  orphans : ∀ reference ∈ path.orphans, reference ∈ path.held ∧
    reference.1 < path.nextOpToken ∧ path.ops.get? reference.1 = none ∧
    path.timeoutPrpRetained = true

variable {path : DataPath}

section

variable (kept : path.Kept)
include kept

theorem Kept.held {page : Page} (live : path.Live page) :
    ∃ reference ∈ path.held, reference.2 = page := by
  obtain ⟨token, op, present, member⟩ | ⟨reference, listed, named⟩ := live
  · obtain ⟨entry, listed, _, named⟩ := OpEntry.mem_unfinished.mp member
    exact ⟨(token, page), (kept.sound token op present).2.pages entry listed page named, rfl⟩
  · exact ⟨reference, (kept.orphans reference listed).1, named⟩

theorem Kept.spares {action : Action} (certain : path.Certain action) :
    path.Spares action := by
  cases action with
  | submit fresh pages recorded =>
    intro _ unheld page member live
    obtain ⟨reference, held, named⟩ := kept.held live
    exact unheld page member reference held named
  | shutdown =>
    intro _ drained quiet page live
    obtain ⟨token, op, present, member⟩ | ⟨reference, listed, _⟩ := live
    · have entry := get?_eq_some_iff.mp present
      have flagged := (kept.sound token op present).2.flagged (drained _ entry)
        (ne_nil_of_mem member)
      exact absurd (any_eq_true.mpr ⟨_, entry, flagged⟩) (Bool.eq_false_iff.mp quiet)
    · have flagged := certain (kept.orphans reference listed).2.2.2
      exact absurd flagged (Bool.eq_false_iff.mp quiet)
  | poll token polled => trivial
  | release token => trivial

theorem Kept.submit {fresh : List Page} {pages : List (Option Page)} {recorded : Recorded}
    (certain : path.Certain (.submit fresh pages recorded)) :
    (path.submit fresh pages recorded).Kept := by
  unfold DataPath.submit
  split
  · refine ⟨fun token op present => ?_, fun reference listed => ?_⟩
    · rw [get?_set] at present
      split at present
      · rename_i same
        cases present
        subst same
        refine ⟨Nat.lt_succ_self _, ?_⟩
        have named : ∀ entry ∈ pages.map ({ page := · } : Option Page → Entry),
            ∀ page ∈ entry.page, (path.nextOpToken, page) ∈
              path.held ++ (pages.filterMap id).map (path.nextOpToken, ·) := by
          intro entry member page named
          obtain ⟨source, listed, rfl⟩ := mem_map.mp member
          exact mem_append_right _ (mem_map.mpr
            ⟨page, mem_filterMap.mpr ⟨source, listed, named⟩, rfl⟩)
        obtain rfl | ⟨results, rfl⟩ := certain
        · exact ⟨named, fun ended => absurd rfl ended⟩
        · exact .aggregate named results
      · obtain ⟨below, sound⟩ := kept.sound token op present
        exact ⟨Nat.lt_succ_of_lt below, sound.mono fun _ => mem_append_left _⟩
    · obtain ⟨held, below, gone, retained⟩ := kept.orphans reference listed
      refine ⟨mem_append_left _ held, Nat.lt_succ_of_lt below, ?_, retained⟩
      rw [get?_set, if_neg (ne_of_lt below)]
      exact gone
  · exact kept

theorem Kept.poll {token : Nat} {polled : Polled} (certain : path.Certain (.poll token polled)) :
    (path.poll token polled).Kept := by
  unfold DataPath.poll
  split
  · exact kept
  rename_i op present
  obtain ⟨below, sound⟩ := kept.sound token op present
  split
  · refine ⟨fun query found changed => ?_, fun reference listed => ?_⟩
    · rw [get?_set] at changed
      split at changed
      · rename_i same
        cases changed
        subst same
        refine ⟨below, ?_⟩
        obtain rfl | ⟨results, rfl⟩ := certain
        · exact sound
        · exact .aggregate sound.pages results
      · exact kept.sound query found changed
    · obtain ⟨held, bound, gone, retained⟩ := kept.orphans reference listed
      refine ⟨held, bound, ?_, retained⟩
      rw [get?_set, if_neg]
      · exact gone
      intro same
      rw [same, present] at gone
      cases gone
  · exact kept

theorem Kept.release (token : Nat) : (path.release token).Kept := by
  unfold DataPath.release
  split
  · exact kept
  rename_i op present
  obtain ⟨below, sound⟩ := kept.sound token op present
  split
  · exact kept
  rename_i ended
  -- references of other ops stay, whether or not those of this op do
  have stays : ∀ reference ∈ path.held, reference.1 ≠ token → reference ∈
      if op.hasTimeout then path.held
      else path.held.filter fun reference => reference.1 != token := by
    intro reference held other
    split
    · exact held
    · exact mem_filter.mpr ⟨held, bne_iff_ne.mpr other⟩
  refine ⟨fun query found still => ?_, fun reference listed => ?_⟩
  · rw [get?_erase] at still
    split at still
    · cases still
    rename_i other
    obtain ⟨bound, well⟩ := kept.sound query found still
    exact ⟨bound, well.mono fun page held => stays _ held other⟩
  obtain old | new := mem_append.mp listed
  · obtain ⟨held, bound, gone, retained⟩ := kept.orphans reference old
    have other : reference.1 ≠ token := by
      intro same
      rw [same, present] at gone
      cases gone
    refine ⟨stays reference held other, bound, ?_, Bool.or_eq_true_iff.mpr (.inl retained)⟩
    rw [get?_erase, if_neg other]
    exact gone
  · obtain ⟨page, member, rfl⟩ := mem_map.mp new
    obtain ⟨entry, inside, _, named⟩ := OpEntry.mem_unfinished.mp member
    have flagged := sound.flagged ended (ne_nil_of_mem member)
    refine ⟨?_, below, ?_, Bool.or_eq_true_iff.mpr (.inr flagged)⟩
    · rw [if_pos flagged]
      exact sound.pages entry inside page named
    · rw [get?_erase, if_pos rfl]

theorem Kept.step {action : Action} (certain : path.Certain action) :
    (path.step action).Kept := by
  cases action with
  | submit fresh pages recorded => exact kept.submit certain
  | poll token polled => exact kept.poll certain
  | release token => exact kept.release token
  | shutdown =>
    change (DataPath.shutdown path).Kept
    unfold DataPath.shutdown
    split
    · refine ⟨nofun, fun reference listed => ?_⟩
      obtain ⟨held, below, _, retained⟩ := kept.orphans reference listed
      exact ⟨held, below, rfl, retained⟩
    · exact kept

end

/-- In every run whose ops become terminal only where their statuses are read back, and
which is not shut down after an op with a timeout was released unless another one is in
the table, no page that the controller possibly still reads is reused or unmapped. -/
theorem spares_of_certain (actions : List Action) (certain : Along step Certain {} actions) :
    Along step Spares {} actions :=
  Along.imp_of_invariant Kept (fun _ _ kept certain => kept.step certain)
    (fun _ _ kept certain => kept.spares certain)
    ⟨nofun, nofun⟩ certain

theorem spares_of_certain_timeout :
    Along step Spares {} [.submit [.pool 0] [some (.pool 0)] .event,
      .poll 1 (.ready (some fun _ => timeoutResult)), .release 1,
      .submit [.pool 1] [some (.pool 1)] .event] :=
  spares_of_certain _ ⟨.inl rfl, .inr ⟨_, rfl⟩, trivial, .inl rfl, trivial⟩

/-- The event query of an op fails, and the op is released. Its page goes back to the pool
and is handed to the next op, although nothing is known of the command. -/
theorem queryError_recycles :
    ¬ Along step Spares {} [.submit [.pool 0] [some (.pool 0)] .event, .poll 1 .queryError,
      .release 1, .submit [.pool 0] [some (.pool 0)] .event] := by
  rintro ⟨_, _, _, spares, _⟩
  exact spares rfl (by decide) (.pool 0) (by decide) (.inr ⟨(1, .pool 0), by decide, rfl⟩)

end DataPath

end Tutti.LocalNvme
