import WmsDu.System.CountLives
import WmsDu.Theorems.CountPosting

/-!
# The life of a count document

Through any run of all services.
-/

namespace WmsDu

open Txn

/-- **The life of a count document.** However a run of the services goes on
from a reachable state, every document only moves on along draft, frozen,
counted, posted, or is voided before it is posted; its number, warehouse and
remark stay; once frozen its sheet stays; once closed neither it nor a line of
it changes. And posted documents and events of counts answer to each other,
one by one. -/
theorem count_life_cycle {allowed : Db → Op → Prop} {db db' : Db} (h : ReachableBy allowed db)
    (hrun : Serial Op.prog (fun db op => op.Fresh db ∧ allowed db op) db db') :
    db.CountsLive db' ∧ Postings db' :=
  ⟨h.countsLive hrun, (h.serial hrun).postings⟩

/-- A counted document is posted, and a second posting changes nothing. -/
def samplePostings : List Op :=
  [.countPost 1 "B" { eventId := 1, eventNo := "E1", traceId := "T1" },
    .countPost 1 "C" { eventId := 2, eventNo := "E2", traceId := "T2" },
    .countVoid 1]

theorem count_life_cycle_sample :
    sampleCountedDb.CountsLive (Op.commits sampleCountedDb samplePostings) ∧
      Postings (Op.commits sampleCountedDb samplePostings) ∧
      (Op.commits sampleCountedDb samplePostings).countDocs.rows.map
          (fun d => (d.status, d.postedEventId, d.reviewedByNameSnapshot)) =
        [(.posted, some 1, some "B")] := by
  have hops : Op.AllAllowed (fun _ _ => True) sampleCountedDb samplePostings := by
    decide +kernel
  obtain ⟨hlive, hpostings⟩ := count_life_cycle sampleCountedDb_reachable hops.serial
  exact ⟨hlive, hpostings, by decide +kernel⟩

end WmsDu
