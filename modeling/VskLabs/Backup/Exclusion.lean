import VskLabs.Backup.Effects

/-! At every moment at most one lease of a repository class is usable, and a lease
that was released publishes nothing. -/

namespace VskLabs.Backup
open Library

variable {backups next : Backups} {now clock later : Instant}

/-! ### Open leases -/

/-- At most one of the rows is held. -/
def Sole {ρ : Type} (held : ρ → Bool) (rows : List ρ) : Prop :=
  ∀ first ∈ rows, ∀ second ∈ rows, held first = true → held second = true → first = second

structure Exclusive (clock : Instant) (backups : Backups) : Prop where
  writers : ∀ repositoryClass, Sole (WriterLease.open_ repositoryClass) backups.writers.rows
  readers : ∀ repositoryClass, Sole (ReadLease.open_ repositoryClass) backups.readers.rows
  retirements : ∀ repositoryClass, Sole (RetirementLease.open_ repositoryClass) backups.retirements.rows
  mixed : ∀ repositoryClass, ∀ writer ∈ backups.writers.rows, ∀ reader ∈ backups.readers.rows,
    writer.open_ repositoryClass = true → reader.open_ repositoryClass = true → writer.maximumExpiresAt ≤ second clock
  alone : ∀ repositoryClass, ∀ lease ∈ backups.retirements.rows, lease.open_ repositoryClass = true →
    (∀ writer ∈ backups.writers.rows, writer.open_ repositoryClass = false) ∧
      ∀ reader ∈ backups.readers.rows, reader.open_ repositoryClass = false

section Occupancy

variable {κ ρ γ : Type} [DecidableEq κ] {key : ρ → κ} {table grown : Table key} {rows left : List ρ} {held : ρ → Bool}
  {opened : γ → ρ → Bool} {place : γ} {row : ρ}

theorem Sole.subset (sole : Sole held rows) (kept : ∀ row ∈ left, held row = true → row ∈ rows) : Sole held left :=
  fun first one second two holds both => sole first (kept first one holds) second (kept second two both) holds both

theorem free_of_subset (free : ∀ row ∈ rows, held row = false) (kept : ∀ row ∈ left, held row = true → row ∈ rows) :
    ∀ row ∈ left, held row = false := by
  intro row member
  rw [Bool.eq_false_iff]
  intro holds
  rw [free row (kept row member holds)] at holds
  cases holds

/-- An open row after an insertion at a free place is an old one elsewhere or the new one. -/
theorem opened_insert (added : table.insert? row = some grown) (free : ∀ old ∈ table.rows, opened place old = false)
    (own : ∀ other, opened other row = true → other = place) : ∀ other, ∀ lease ∈ grown.rows, opened other lease = true →
      lease ∈ table.rows ∧ other ≠ place ∨ lease = row ∧ other = place := by
  intro other lease member holds
  rcases (Table.mem_insert? added).mp member with old | rfl
  · refine .inl ⟨old, ?_⟩
    rintro rfl
    rw [free lease old] at holds
    cases holds
  · exact .inr ⟨rfl, own other holds⟩

theorem sole_insert (added : table.insert? row = some grown) (free : ∀ old ∈ table.rows, opened place old = false)
    (own : ∀ other, opened other row = true → other = place) (sole : ∀ other, Sole (opened other) table.rows) :
    ∀ other, Sole (opened other) grown.rows := by
  intro other first one second two holds both
  rcases opened_insert added free own other first one holds with ⟨old, away⟩ | ⟨same, here⟩ <;>
  rcases opened_insert added free own other second two both with ⟨older, elsewhere⟩ | ⟨equal, there⟩
  · exact sole other first old second older holds both
  · exact absurd there away
  · exact absurd here elsewhere
  · rw [same, equal]

end Occupancy

theorem Exclusive.fresh (clock : Instant) : Exclusive clock .fresh := by
  constructor <;> simp [Backups.fresh, Table.empty, Sole]

theorem second_mono (order : clock ≤ later) : second clock ≤ second later :=
  Int.ediv_le_ediv (by decide) order

theorem Exclusive.shrink (exclusive : Exclusive clock backups) (order : clock ≤ later)
    (writers : ∀ kind, ∀ lease ∈ next.writers.rows, lease.open_ kind = true → lease ∈ backups.writers.rows)
    (readers : ∀ kind, ∀ lease ∈ next.readers.rows, lease.open_ kind = true → lease ∈ backups.readers.rows)
    (retirements : ∀ kind, ∀ lease ∈ next.retirements.rows, lease.open_ kind = true →
      lease ∈ backups.retirements.rows) : Exclusive later next where
  writers kind := (exclusive.writers kind).subset (writers kind)
  readers kind := (exclusive.readers kind).subset (readers kind)
  retirements kind := (exclusive.retirements kind).subset (retirements kind)
  mixed kind writer one reader two opened both :=
    (exclusive.mixed kind writer (writers _ writer one opened) reader (readers _ reader two both) opened
      both).trans (second_mono order)
  alone kind lease member opened := by
    obtain ⟨noWriter, noReader⟩ := exclusive.alone kind lease (retirements _ lease member opened) opened
    exact ⟨free_of_subset noWriter (writers _), free_of_subset noReader (readers _)⟩

variable {lease : WriterLease} {kind : RepositoryClass} {stamp : Time} {request : WriterLeaseRequest}
  {release : WriterLease → WriterLease} {close : Job → Job}

theorem WriterLease.open_iff :
    lease.open_ kind = true ↔ lease.repositoryClass = kind ∧ lease.releasedAt = none := by
  simp [WriterLease.open_]

theorem ReadLease.open_iff {lease : ReadLease} :
    lease.open_ kind = true ↔ lease.repositoryClass = kind ∧ lease.releasedAt = none := by
  simp [ReadLease.open_]

theorem RetirementLease.open_iff {lease : RetirementLease} :
    lease.open_ kind = true ↔ lease.repositoryClass = kind ∧ lease.releasedAt = none := by
  simp [RetirementLease.open_]

theorem mem_of_modify {ρ : Type} {rows : List ρ} {selected : ρ → Bool} {change : ρ → ρ} (property : ρ → Prop)
    (closes : ∀ row, ¬ property (change row)) {row : ρ}
    (member : row ∈ rows.map fun old => if selected old then change old else old) (holds : property row) :
    row ∈ rows := by
  obtain ⟨old, present, rfl⟩ := List.mem_map.mp member
  split at holds
  · exact absurd holds (closes old)
  · next unselected =>
    rw [if_neg unselected]
    exact present

variable {other : RepositoryClass}

theorem reclaimed_writer
    (member : lease ∈ (reclaimWriters backups kind stamp).writers.rows) (opened : lease.open_ other = true) :
    lease ∈ backups.writers.rows :=
  mem_of_modify (fun row => row.open_ other = true) (fun row => by simp [WriterLease.open_]) member opened

theorem reclaimed_reader {lease : ReadLease}
    (member : lease ∈ (reclaimReaders backups kind stamp).readers.rows) (opened : lease.open_ other = true) :
    lease ∈ backups.readers.rows :=
  mem_of_modify (fun row => row.open_ other = true) (fun row => by simp [ReadLease.open_]) member opened

theorem Exclusive.acquireWriter (exclusive : Exclusive clock backups)
    (acquired : WriterAcquired backups stamp request next) : Exclusive clock next := by
  obtain ⟨noReader, noRetirement, noWriter, jobs, writers, _, added, rfl⟩ := acquired
  have own : ∀ other, (request.lease stamp).open_ other = true → other = request.repositoryClass :=
    fun other opened => (WriterLease.open_iff.mp opened).1.symm
  have kept := opened_insert added noWriter own
  constructor
  · exact sole_insert added noWriter own fun other => (exclusive.writers other).subset fun _ => reclaimed_writer
  · exact fun other => (exclusive.readers other).subset fun _ => reclaimed_reader
  · exact exclusive.retirements
  · intro other writer one reader two opened both
    rcases kept other writer one opened with ⟨old, _⟩ | ⟨_, rfl⟩
    · exact exclusive.mixed other writer (reclaimed_writer old opened) reader (reclaimed_reader two both) opened both
    · rw [noReader reader two] at both
      cases both
  · intro other lease member opened
    obtain ⟨noOther, noneRead⟩ := exclusive.alone other lease member opened
    refine ⟨free_of_subset noOther ?_, free_of_subset noneRead fun _ => reclaimed_reader⟩
    intro writer present both
    rcases kept other writer present both with ⟨old, _⟩ | ⟨_, rfl⟩
    · exact reclaimed_writer old both
    · rw [noRetirement lease member] at opened
      cases opened

theorem Exclusive.acquireReader (exclusive : Exclusive clock backups) (stale : stamp ≤ second clock)
    {request : ReadLeaseRequest} (acquired : ReaderAcquired backups stamp request next) : Exclusive clock next := by
  obtain ⟨expired, noRetirement, noReader, readers, added, rfl⟩ := acquired
  have own : ∀ other, (request.lease stamp).open_ other = true → other = request.repositoryClass :=
    fun other opened => (ReadLease.open_iff.mp opened).1.symm
  have kept := opened_insert added noReader own
  constructor
  · exact exclusive.writers
  · exact sole_insert added noReader own fun other => (exclusive.readers other).subset fun _ => reclaimed_reader
  · exact exclusive.retirements
  · intro other writer one reader two opened both
    rcases kept other reader two both with ⟨old, _⟩ | ⟨_, rfl⟩
    · exact exclusive.mixed other writer one reader (reclaimed_reader old both) opened both
    · exact (expired writer one opened).trans stale
  · intro other lease member opened
    obtain ⟨noOther, noneRead⟩ := exclusive.alone other lease member opened
    refine ⟨noOther, free_of_subset noneRead ?_⟩
    intro reader present both
    rcases kept other reader present both with ⟨old, _⟩ | ⟨_, rfl⟩
    · exact reclaimed_reader old both
    · rw [noRetirement lease member] at opened
      cases opened

theorem Exclusive.claim (exclusive : Exclusive clock backups) {request : ClaimRequest} {intent : Intent}
    (claimed : Claimed backups stamp request intent next) : Exclusive clock next := by
  obtain ⟨retirements, added, rfl⟩ := claimed.appended
  have free := claimed.unleased
  simp only [unleased, checks, List.any_eq_false, Bool.not_eq_true] at free
  obtain ⟨⟨noWriter, noReader⟩, noRetirement⟩ := free
  have own : ∀ other, (request.lease intent.selection stamp).open_ other = true → other = intent.selection.repositoryClass :=
    fun other opened => (RetirementLease.open_iff.mp opened).1.symm
  refine ⟨exclusive.writers, exclusive.readers, sole_insert added noRetirement own exclusive.retirements,
    exclusive.mixed, ?_⟩
  intro other lease member opened
  rcases opened_insert added noRetirement own other lease member opened with ⟨old, _⟩ | ⟨_, rfl⟩
  · exact exclusive.alone other lease old opened
  · exact ⟨noWriter, noReader⟩

theorem Exclusive.transact (exclusive : Exclusive clock backups) (call : Call) (stale : now ≤ clock)
    (done : call.transact backups now = .ok next) : Exclusive clock next := by
  cases Call.transact_effect done with
  | acquireWriter jobs writers readers acquired => exact exclusive.acquireWriter acquired
  | acquireReader readers acquired => exact exclusive.acquireReader (second_mono stale) acquired
  | claim intent retirements claimed => exact exclusive.claim claimed
  | appendPoint | failJob =>
    exact exclusive.shrink le_rfl (fun other _ member opened => mem_of_modify (fun row => row.open_ other = true)
      (fun _ => by simp [WriterLease.open_]) member opened) (fun _ _ member _ => member) fun _ _ member _ => member
  | releaseReader =>
    exact exclusive.shrink le_rfl (fun _ _ member _ => member) (fun other _ member opened => mem_of_modify
      (fun row => row.open_ other = true) (fun _ => by simp [ReadLease.open_]) member opened) fun _ _ member _ => member
  | commit =>
    exact exclusive.shrink le_rfl (fun _ _ member _ => member) (fun _ _ member _ => member)
      fun other _ member opened => mem_of_modify (fun row => row.open_ other = true)
        (fun _ => by simp [RetirementLease.open_]) member opened
  | _ => exact { exclusive with }

/-! ### Released writers -/

structure Accounted (backups : Backups) : Prop where
  owned : ∀ job ∈ backups.jobs.rows, ∃ lease ∈ backups.writers.rows, lease.jobID = job.jobID
  known : ∀ lease ∈ backups.writers.rows, ∃ job ∈ backups.jobs.rows, job.jobID = lease.jobID
  own : ∀ first ∈ backups.writers.rows, ∀ second ∈ backups.writers.rows, first.jobID = second.jobID → first = second
  running : ∀ lease ∈ backups.writers.rows, lease.releasedAt = none → ∀ job ∈ backups.jobs.rows,
    job.jobID = lease.jobID → job.status = .running

/-- A released lease stays as it is and its job gets no further point; a job that
failed stays failed. -/
structure Kept (backups next : Backups) : Prop where
  leases : ∀ lease ∈ backups.writers.rows, lease.releasedAt ≠ none → lease ∈ next.writers.rows
  jobs : ∀ job ∈ backups.jobs.rows, job.status = .failed ∨ job.status = .uncertain → job ∈ next.jobs.rows
  points : ∀ lease ∈ backups.writers.rows, lease.releasedAt ≠ none → ∀ point ∈ next.points.rows,
    point.jobID = lease.jobID → point ∈ backups.points.rows

theorem Accounted.fresh : Accounted .fresh := by
  constructor <;> simp [Backups.fresh, Table.empty]

theorem Kept.refl (backups : Backups) : Kept backups backups :=
  ⟨fun _ member _ => member, fun _ member _ => member, fun _ _ _ _ member _ => member⟩

theorem Kept.trans {first second third : Backups} (before : Kept first second) (later : Kept second third) :
    Kept first third where
  leases lease member released := later.leases lease (before.leases lease member released) released
  jobs job member settled := later.jobs job (before.jobs job member settled) settled
  points lease member released point present same :=
    before.points lease member released point
      (later.points lease (before.leases lease member released) released point present same) same

section Modify

variable {released : WriterLease → Bool} {closed : Job → Bool}
  (writers : next.writers.rows = backups.writers.rows.map fun lease => if released lease then release lease else lease)
  (jobs : next.jobs.rows = backups.jobs.rows.map fun job => if closed job then close job else job)
include writers jobs

theorem Accounted.modify (accounted : Accounted backups)
    (sameJob : ∀ lease, (release lease).jobID = lease.jobID) (unopened : ∀ lease, (release lease).releasedAt ≠ none)
    (sameID : ∀ job, (close job).jobID = job.jobID)
    (spares : ∀ lease ∈ backups.writers.rows, ∀ job ∈ backups.jobs.rows, job.jobID = lease.jobID →
      closed job = true → lease.releasedAt = none → released lease = true) : Accounted next := by
  have leaseJob (lease : WriterLease) : (if released lease then release lease else lease).jobID = lease.jobID := by
    split <;> simp [sameJob]
  have jobJob (job : Job) : (if closed job then close job else job).jobID = job.jobID := by
    split <;> simp [sameID]
  constructor
  · rw [writers, jobs]
    intro job member
    obtain ⟨old, present, rfl⟩ := List.mem_map.mp member
    obtain ⟨lease, held, same⟩ := accounted.owned old present
    exact ⟨_, List.mem_map_of_mem held, by rw [leaseJob, jobJob, same]⟩
  · rw [writers, jobs]
    intro lease member
    obtain ⟨old, present, rfl⟩ := List.mem_map.mp member
    obtain ⟨job, held, same⟩ := accounted.known old present
    exact ⟨_, List.mem_map_of_mem held, by rw [leaseJob, jobJob, same]⟩
  · rw [writers]
    intro first one second two same
    obtain ⟨old, present, rfl⟩ := List.mem_map.mp one
    obtain ⟨other, held, rfl⟩ := List.mem_map.mp two
    rw [leaseJob, leaseJob] at same
    rw [accounted.own old present other held same]
  · rw [writers, jobs]
    intro lease member opened job present same
    obtain ⟨old, held, rfl⟩ := List.mem_map.mp member
    obtain ⟨work, queued, rfl⟩ := List.mem_map.mp present
    rw [leaseJob, jobJob] at same
    by_cases chosen : released old = true
    · rw [if_pos chosen] at opened
      exact absurd opened (unopened old)
    · rw [if_neg chosen] at opened
      have untouched : ¬ closed work = true := fun closes => chosen (spares old held work queued same closes opened)
      rw [if_neg untouched]
      exact accounted.running old held opened work queued same

theorem Kept.modify
    (spared : ∀ lease ∈ backups.writers.rows, lease.releasedAt ≠ none → released lease = false)
    (stays : ∀ job ∈ backups.jobs.rows, job.status = .failed ∨ job.status = .uncertain → closed job = false)
    (points : ∀ lease ∈ backups.writers.rows, lease.releasedAt ≠ none → ∀ point ∈ next.points.rows,
      point.jobID = lease.jobID → point ∈ backups.points.rows) : Kept backups next where
  leases lease member past := by
    rw [writers]
    exact List.mem_map.mpr ⟨lease, member, by simp [spared lease member past]⟩
  jobs job member settled := by
    rw [jobs]
    exact List.mem_map.mpr ⟨job, member, by simp [stays job member settled]⟩
  points := points

end Modify

section Reclaim

variable {kind : RepositoryClass} {stamp : Time}

theorem Accounted.reclaim (accounted : Accounted backups) : Accounted (reclaimWriters backups kind stamp) := by
  refine accounted.modify rfl rfl (fun _ => rfl) (fun _ => Option.some_ne_none _) (fun _ => rfl) ?_
  intro lease member job _ same closed _
  simp only [checks, List.any_eq_true] at closed
  obtain ⟨_, other, present, overdue, named⟩ := closed
  rw [accounted.own lease member other present (same.symm.trans named.symm)]
  exact overdue

theorem Kept.reclaim : Kept backups (reclaimWriters backups kind stamp) := by
  refine Kept.modify rfl rfl ?_ ?_ fun _ _ _ _ member _ => member
  · intro lease _ past
    simp [WriterLease.overdue, past]
  · rintro job _ (settled | settled)
    · simp [settled]
    · simp [settled]

end Reclaim

theorem Accounted.insert (accounted : Accounted backups)
    {jobs : Table Job.jobID} {writers : Table WriterLease.leaseID} (job : backups.jobs.insert? request.job = some jobs)
    (lease : backups.writers.insert? (request.lease stamp) = some writers) (nextJobs : next.jobs = jobs)
    (nextWriters : next.writers = writers) : Accounted next := by
  have free : ∀ old ∈ backups.jobs.rows, old.jobID ≠ request.jobID :=
    Table.find?_eq_none_iff.mp (Table.insert?_eq_some job).1
  have unused : ∀ old ∈ backups.writers.rows, old.jobID ≠ request.jobID := by
    intro old member same
    obtain ⟨work, present, named⟩ := accounted.known old member
    exact free work present (named.trans same)
  subst nextJobs nextWriters
  constructor
  · intro work member
    rcases (Table.mem_insert? job).mp member with old | rfl
    · obtain ⟨held, present, same⟩ := accounted.owned work old
      exact ⟨held, Table.extends_of_insert? lease _ present, same⟩
    · exact ⟨_, (Table.mem_insert? lease).mpr (.inr rfl), rfl⟩
  · intro held member
    rcases (Table.mem_insert? lease).mp member with old | rfl
    · obtain ⟨work, present, same⟩ := accounted.known held old
      exact ⟨work, Table.extends_of_insert? job _ present, same⟩
    · exact ⟨_, (Table.mem_insert? job).mpr (.inr rfl), rfl⟩
  · intro first one second two same
    rcases (Table.mem_insert? lease).mp one with old | rfl <;> rcases (Table.mem_insert? lease).mp two with older | rfl
    · exact accounted.own first old second older same
    · exact absurd same (unused first old)
    · exact absurd same.symm (unused second older)
    · rfl
  · intro held member opened work present same
    rcases (Table.mem_insert? lease).mp member with old | rfl <;> rcases (Table.mem_insert? job).mp present with older | rfl
    · exact accounted.running held old opened work older same
    · exact absurd same.symm (unused held old)
    · exact absurd same (free work older)
    · rfl

theorem WriterAcquired.accounted
    (acquired : WriterAcquired backups stamp request next) (accounted : Accounted backups) :
    Accounted next ∧ Kept backups next := by
  obtain ⟨jobs, writers, job, lease, rfl⟩ := acquired.appended
  have kept : Kept backups (reclaimWriters backups request.repositoryClass stamp) := .reclaim
  refine ⟨accounted.reclaim.insert job lease rfl rfl, kept.trans ⟨?_, ?_, ?_⟩⟩
  · exact fun row member _ => Table.extends_of_insert? lease _ member
  · exact fun row member _ => Table.extends_of_insert? job _ member
  · exact fun _ _ _ _ member _ => member

theorem Accounted.settle (accounted : Accounted backups) {leaseID : String} (found : backups.writers.find? leaseID = some lease)
    (opened : lease.releasedAt = none)
    (writers : next.writers.rows = backups.writers.rows.map fun row => if row.leaseID == leaseID then release row else row)
    (jobs : next.jobs.rows = backups.jobs.rows.map fun job => if job.jobID == lease.jobID then close job else job)
    (sameJob : ∀ row, (release row).jobID = row.jobID) (unopened : ∀ row, (release row).releasedAt ≠ none)
    (sameID : ∀ job, (close job).jobID = job.jobID)
    (points : ∀ point ∈ next.points.rows, point ∈ backups.points.rows ∨ point.jobID = lease.jobID) :
    Accounted next ∧ Kept backups next := by
  obtain ⟨present, named⟩ := Table.find?_eq_some_iff.mp found
  have other : ∀ row ∈ backups.writers.rows, row.releasedAt ≠ none → row.leaseID ≠ leaseID := by
    intro row member past same
    have again := found.symm.trans (Table.find?_eq_some_iff.mpr ⟨member, same⟩)
    rw [Option.some.inj again] at opened
    exact past opened
  constructor
  · refine accounted.modify writers jobs sameJob unopened sameID ?_
    intro row member job _ same closed _
    rw [accounted.own row member lease present (same.symm.trans (beq_iff_eq.mp closed))]
    exact beq_iff_eq.mpr named
  · refine Kept.modify writers jobs ?_ ?_ ?_
    · intro row member past
      exact beq_false_of_ne (other row member past)
    · intro job member settled
      apply beq_false_of_ne
      intro same
      rw [accounted.running lease present opened job member same] at settled
      rcases settled with settled | settled <;> cases settled
    · intro row member past point added same
      rcases points point added with old | new
      · exact old
      · rw [accounted.own row member lease present (same.symm.trans new)] at past
        exact absurd opened past

theorem Accounted.transact (accounted : Accounted backups) (call : Call) (done : call.transact backups now = .ok next) :
    Accounted next ∧ Kept backups next := by
  cases Call.transact_effect done with
  | acquireWriter jobs writers readers acquired => exact acquired.accounted accounted
  | appendPoint lease points found opened added =>
    refine accounted.settle found opened rfl rfl (fun _ => rfl) (fun _ => Option.some_ne_none _) (fun _ => rfl) ?_
    intro point member
    rcases (Table.mem_insert? added).mp member with old | rfl
    · exact .inl old
    · exact .inr rfl
  | failJob lease found opened =>
    exact accounted.settle found opened rfl rfl (fun _ => rfl) (fun _ => Option.some_ne_none _) (fun _ => rfl)
      fun _ member => .inl member
  | _ => exact ⟨{ accounted with }, fun _ member _ => member,
      fun _ member _ => member, fun _ _ _ _ member _ => member⟩

/-! ### Whole histories -/

structure Moment.Orderly (moment : Moment) : Prop where
  exclusive : Exclusive moment.clock moment.backups
  accounted : Accounted moment.backups

theorem Moment.Orderly.step {moment : Moment} (orderly : moment.Orderly) (event : Event) :
    (event.step moment).Orderly ∧ Kept moment.backups (event.step moment).backups := by
  cases event with
  | tick elapsed =>
    refine ⟨⟨?_, orderly.accounted⟩, Kept.refl _⟩
    exact orderly.exclusive.shrink (Int.le_add_of_nonneg_right (Int.natCast_nonneg elapsed)) (fun _ _ member _ => member)
      (fun _ _ member _ => member) fun _ _ member _ => member
  | call age made =>
    apply made.perform_cases fun next => Moment.Orderly ⟨moment.clock, next, _⟩ ∧ Kept moment.backups next
    · exact ⟨⟨orderly.exclusive, orderly.accounted⟩, Kept.refl _⟩
    · intro next done
      obtain ⟨accounted, kept⟩ := orderly.accounted.transact made done
      exact ⟨⟨orderly.exclusive.transact made (Int.sub_le_self _ (Int.natCast_nonneg age)) done, accounted⟩, kept⟩

theorem orderly_execute {moment : Moment} (orderly : moment.Orderly) (history : List Event) :
    (execute Event.step moment history).Orderly ∧ Kept moment.backups (execute Event.step moment history).backups := by
  have keeps : ∀ later event, later.Orderly ∧ Kept moment.backups later.backups →
      (Event.step later event).Orderly ∧ Kept moment.backups (Event.step later event).backups := by
    rintro later event ⟨holds, kept⟩
    obtain ⟨next, grown⟩ := holds.step event
    exact ⟨next, kept.trans grown⟩
  exact @execute_invariant _ _ _ _ _ (fun later : Moment => later.Orderly ∧ Kept moment.backups later.backups)
    ⟨orderly, Kept.refl _⟩ keeps

theorem orderly_after (clock : Instant) (history : List Event) : (after clock history).Orderly :=
  (orderly_execute ⟨.fresh clock, .fresh⟩ history).1

/-! ### Usable leases -/

def usableWriters (moment : Moment) (repositoryClass : RepositoryClass) : List WriterLease :=
  moment.backups.writers.rows.filter fun lease =>
    lease.open_ repositoryClass && before moment.clock lease.maximumExpiresAt

def usableReaders (moment : Moment) (repositoryClass : RepositoryClass) : List ReadLease :=
  moment.backups.readers.rows.filter fun lease =>
    lease.open_ repositoryClass && before moment.clock lease.maximumExpiresAt

def openRetirements (moment : Moment) (repositoryClass : RepositoryClass) : List RetirementLease :=
  moment.backups.retirements.rows.filter (RetirementLease.open_ repositoryClass)

def usable (moment : Moment) (repositoryClass : RepositoryClass) : List String :=
  (usableWriters moment repositoryClass).map WriterLease.leaseID ++
    (usableReaders moment repositoryClass).map ReadLease.leaseID ++
    (openRetirements moment repositoryClass).map RetirementLease.leaseID

theorem before_iff {deadline : Time} : before clock deadline = true ↔ second clock < deadline := by
  simp only [before, second, checks]
  lia

section Usable

variable {moment : Moment} {kind : RepositoryClass}

theorem mem_usableWriters {lease : WriterLease} : lease ∈ usableWriters moment kind ↔
    lease ∈ moment.backups.writers.rows ∧ lease.open_ kind = true ∧ second moment.clock < lease.maximumExpiresAt := by
  simp only [usableWriters, List.mem_filter, checks, before_iff]

theorem mem_usableReaders {lease : ReadLease} : lease ∈ usableReaders moment kind ↔
    lease ∈ moment.backups.readers.rows ∧ lease.open_ kind = true ∧ second moment.clock < lease.maximumExpiresAt := by
  simp only [usableReaders, List.mem_filter, checks, before_iff]

theorem mem_openRetirements {lease : RetirementLease} : lease ∈ openRetirements moment kind ↔
    lease ∈ moment.backups.retirements.rows ∧ lease.open_ kind = true := by
  simp only [openRetirements, List.mem_filter]

theorem length_filter_le_one {ρ : Type} {rows : List ρ} {held usable : ρ → Bool} (distinct : rows.Nodup) (sole : Sole held rows)
    (holds : ∀ row, usable row = true → held row = true) : (rows.filter usable).length ≤ 1 := by
  match found : rows.filter usable, distinct.filter usable with
  | [], _ => simp
  | [_], _ => simp
  | first :: second :: _, distinct =>
    obtain ⟨one, opened⟩ := List.mem_filter.mp (found ▸ (by simp) : first ∈ rows.filter usable)
    obtain ⟨two, both⟩ := List.mem_filter.mp (found ▸ (by simp) : second ∈ rows.filter usable)
    simp [sole first one second two (holds first opened) (holds second both)] at distinct

theorem writers_or_readers (exclusive : Exclusive moment.clock moment.backups) :
    usableWriters moment kind = [] ∨ usableReaders moment kind = [] := by
  by_contra both
  rw [not_or] at both
  obtain ⟨writer, writing⟩ := List.exists_mem_of_ne_nil _ both.1
  obtain ⟨reader, reading⟩ := List.exists_mem_of_ne_nil _ both.2
  obtain ⟨member, opened, early⟩ := mem_usableWriters.mp writing
  obtain ⟨present, shared, _⟩ := mem_usableReaders.mp reading
  have late := exclusive.mixed kind writer member reader present opened shared
  exact absurd early (not_lt.mpr late)

theorem retirement_alone (exclusive : Exclusive moment.clock moment.backups) :
    openRetirements moment kind = [] ∨
      usableWriters moment kind = [] ∧ usableReaders moment kind = [] := by
  by_cases retiring : openRetirements moment kind = []
  · exact .inl retiring
  · obtain ⟨lease, member⟩ := List.exists_mem_of_ne_nil _ retiring
    obtain ⟨present, opened⟩ := mem_openRetirements.mp member
    obtain ⟨noWriter, noReader⟩ := exclusive.alone kind lease present opened
    refine .inr ⟨List.eq_nil_iff_forall_not_mem.mpr ?_, List.eq_nil_iff_forall_not_mem.mpr ?_⟩
    · intro writer writing
      obtain ⟨held, both, _⟩ := mem_usableWriters.mp writing
      rw [noWriter writer held] at both
      cases both
    · intro reader reading
      obtain ⟨held, both, _⟩ := mem_usableReaders.mp reading
      rw [noReader reader held] at both
      cases both

theorem usable_le_one (exclusive : Exclusive moment.clock moment.backups) :
    (usable moment kind).length ≤ 1 := by
  have writers : (usableWriters moment kind).length ≤ 1 := length_filter_le_one moment.backups.writers.distinct.of_map
    (exclusive.writers kind) fun _ usable => (Bool.and_eq_true_iff.mp usable).1
  have readers : (usableReaders moment kind).length ≤ 1 := length_filter_le_one moment.backups.readers.distinct.of_map
    (exclusive.readers kind) fun _ usable => (Bool.and_eq_true_iff.mp usable).1
  have retirements : (openRetirements moment kind).length ≤ 1 :=
    length_filter_le_one moment.backups.retirements.distinct.of_map (exclusive.retirements kind) fun _ => id
  simp only [usable, List.length_append, List.length_map]
  rcases @retirement_alone moment kind exclusive with none | ⟨noWriter, noReader⟩
  · rcases @writers_or_readers moment kind exclusive with noWriter | noReader
    · simpa [none, noWriter] using readers
    · simpa [none, noReader] using writers
  · simpa [noWriter, noReader] using retirements

end Usable

theorem released_lease_refused {request : PendingPointRequest} (member : lease ∈ backups.writers.rows)
    (released : lease.releasedAt ≠ none) (named : request.leaseID = lease.leaseID) :
    appendPendingRecoveryPoint backups now request ≠ .ok next := by
  intro done
  have effect : Effect backups now (.appendPoint request) next := Call.transact_effect done
  cases effect with | appendPoint held points found opened added =>
  rw [named, Table.find?_eq_some_iff.mpr ⟨member, rfl⟩] at found
  cases found
  exact released opened

/-- In every history: at most one lease of a class is usable. A writer lease that
was released, as reclaiming does, publishes no point afterwards. A job that
failed or is uncertain never becomes pending. -/
theorem repository_leases_exclude (clock : Instant) (history later : List Event) :
    (∀ repositoryClass, (usable (after clock history) repositoryClass).length ≤ 1) ∧
    (∀ lease ∈ (after clock history).backups.writers.rows, lease.releasedAt ≠ none →
      (∀ point ∈ (after clock (history ++ later)).backups.points.rows, point.jobID = lease.jobID →
        point ∈ (after clock history).backups.points.rows) ∧
      ∀ now request next, request.leaseID = lease.leaseID →
        appendPendingRecoveryPoint (after clock (history ++ later)).backups now request ≠ .ok next) ∧
    ∀ job ∈ (after clock history).backups.jobs.rows, job.status = .failed ∨ job.status = .uncertain →
      ∀ row ∈ (after clock (history ++ later)).backups.jobs.rows, row.jobID = job.jobID → row.status ≠ .pending := by
  have orderly := orderly_after clock history
  have kept : Kept (after clock history).backups (after clock (history ++ later)).backups := by
    unfold after
    rw [execute_append]
    exact (orderly_execute orderly later).2
  refine ⟨fun _ => usable_le_one orderly.exclusive, ?_, ?_⟩
  · intro lease member released
    refine ⟨kept.points lease member released, ?_⟩
    intro now request next named
    exact released_lease_refused (kept.leases lease member released) released named
  · intro job member settled row present same pending
    have stays := kept.jobs job member settled
    rw [List.inj_on_of_nodup_map (Table.distinct _) present stays same] at pending
    rcases settled with settled | settled <;> rw [settled] at pending <;> cases pending

def writerRequest (leaseID jobID : String) (maximumExpiresAt : Instant) : WriterLeaseRequest :=
  ⟨leaseID, jobID, "policy", "policy-digest", "run", "step", "local-standard", .standard, 1, 0, maximumExpiresAt, true⟩

def reclaiming : List Event :=
  [.call 0 (.acquireWriter (writerRequest "first" "job-1" 5000000000)), .tick 7000000000,
    .call 0 (.acquireWriter (writerRequest "second" "job-2" 20000000000))]

theorem reclaimed_writer_excluded : "second" ∈ usable (after 0 reclaiming) .standard ∧
    (usable (after 0 reclaiming) .standard).length ≤ 1 ∧
    ((after 0 reclaiming).backups.writers.rows.map WriterLease.releasedAt) = [some 7, none] ∧
    ∀ now request next, request.leaseID = "first" →
      appendPendingRecoveryPoint (after 0 reclaiming).backups now request ≠ .ok next := by
  obtain ⟨single, released, _⟩ := repository_leases_exclude 0 reclaiming []
  obtain ⟨lease, member, named, closed⟩ : ∃ lease ∈ (after 0 reclaiming).backups.writers.rows,
      lease.leaseID = "first" ∧ lease.releasedAt ≠ none := by decide +kernel
  refine ⟨by decide +kernel, single .standard, by decide +kernel, ?_⟩
  intro now request next asked
  exact (released lease member closed).2 now request next (asked.trans named.symm)

end VskLabs.Backup
