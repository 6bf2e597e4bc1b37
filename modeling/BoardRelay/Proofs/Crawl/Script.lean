/-
  BoardRelay.Proofs.Crawl.Script
  ────────────────────────────────
  What can be relied on in a crawl that is made up beforehand: its registry
  tells of the store that it works on, and nobody dies unless the script says
  so.  The smallest script with something to send serves as an example.
-/
import BoardRelay.Crawl.Rehearsal
import BoardRelay.Proofs.Crawl.Cycle

namespace BoardRelay.Crawl

/-! ## §1. What registries and scripts tell. -/

theorem Registry.memory_reads (store : Store) : Registry.memory.Reads store store :=
  ⟨rfl, rfl, fun _ _ h => (Except.ok.inj h).symm⟩

theorem Registry.saved_reads (saved : Store.Saved) (disk : Disk) :
    Registry.saved.Reads (saved, disk) saved.store :=
  ⟨rfl, rfl, fun _ _ h => (Except.ok.inj h).symm⟩

namespace Script

/-- A script may let lookups fail, but does not make up users. -/
theorem registry_reads {script : Script} (hcursor : script.faults.cursor = false)
    (hsubscriptions : script.faults.subscriptions = false) (store : Store) :
    script.registry.Reads store store := by
  refine ⟨?_, ?_, fun id users h => ?_⟩
  · simp only [registry, hcursor, Bool.false_eq_true, if_false]
  · simp only [registry, hsubscriptions, Bool.false_eq_true, if_false]
  · simp only [registry] at h
    split at h
    · cases h
    · exact (Except.ok.inj h).symm

/-- A site that has no collapse among its cues never collapses, also for names
it has no cue for. -/
theorem cue_outcome_ne {α : Type} {cues : List (String × Cue α)}
    (hcues : ∀ entry ∈ cues, entry.2.outcome ≠ .collapse) (name : String) :
    (cue cues name).outcome ≠ .collapse := by
  rw [cue]
  induction cues with
  | nil =>
    show Outcome.failure ≠ .collapse
    exact nofun
  | cons entry cues ih =>
    obtain ⟨first, answer⟩ := entry
    rw [List.lookup_cons]
    split
    · exact hcues (first, answer) List.mem_cons_self
    · exact ih fun other hother => hcues other (List.mem_cons_of_mem _ hother)

/-- Nobody dies on a site whose script has no such answers. -/
theorem site_lives {script : Script}
    (hboards : ∀ entry ∈ script.boards, entry.2.outcome ≠ .collapse)
    (hthreads : ∀ entry ∈ script.threads, entry.2.outcome ≠ .collapse) : script.site.Lives :=
  ⟨fun board => cue_outcome_ne hboards board,
    fun board thread => cue_outcome_ne hthreads (threadName board thread)⟩

end Script

/-! ## §2. The smallest script. -/

/-- One board with one thread of one file. -/
def oneFile : Script where
  boards := [("b", ⟨5, .answer ⟨"b", [⟨"7", "cats", "", 0, 1⟩]⟩⟩)]
  threads := [("b/7", ⟨5, .answer ⟨[⟨"", 3, [⟨"a.png", "/7.png", 1⟩]⟩]⟩⟩)]
  resource := "\x7bpath\x7d"
  limits := ⟨1, 100⟩
  faults := ⟨false, false, false, []⟩
  race := none
  failing := []
  dying := []

/-- A store with two users: one takes that file, and no link leads to the other. -/
def oneFan : Store :=
  ⟨[⟨1, 50⟩, ⟨2, 60⟩], [⟨1, "b", "\"cat\"", ".img", "", false⟩], [⟨1, 1⟩], 2⟩

end BoardRelay.Crawl
