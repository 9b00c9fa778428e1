import MulticaOS.Media.Worlds

/-!
The life of an object key: not recorded yet, pending, bound to an attachment, or condemned. A
bind takes a pending key to the one end and a claim of the reconciler to the other, and neither
end is left again.
-/

namespace MulticaOS.Media

def Shared.attached (store : Store) (shared : Shared) (key : String) : Prop :=
  ∃ attachment ∈ shared.attachments, attachment.url = store.objectURL key

def walk (key : String) : Nat → List Event
  | 0 => [.tombstoned key 0, .deleted key]
  | pass + 1 => .tombstoned key (pass + 1) :: .deleted key :: walk key pass

def beforeTombstone (key : String) : Nat → List Event
  | 0 => [.deleted key]
  | pass + 1 => .deleted key :: walk key pass

/-- Every delete of the schedule has been carried out, and the last one after the last delay. -/
def Shared.Exhausted (shared : Shared) (key : String) : Prop :=
  (beforeTombstone key tombstoneRedelete.length).Sublist shared.history

theorem walk_eq (key : String) (pass : Nat) : walk key pass = .tombstoned key pass :: beforeTombstone key pass := by
  cases pass with
  | zero => rfl
  | succ pass => rfl

theorem walk_mono (key : String) {pass later : Nat} (before : pass ≤ later) :
    (walk key pass).Sublist (walk key later) := by
  induction before with
  | refl => exact List.Sublist.refl _
  | step _ ih => exact (ih.cons _).cons _

theorem beforeTombstone_mono (key : String) {pass later : Nat} (before : pass ≤ later) :
    (beforeTombstone key pass).Sublist (beforeTombstone key later) := by
  cases later with
  | zero =>
      obtain rfl := Nat.le_zero.mp before
      exact List.Sublist.refl _
  | succ later =>
      cases pass with
      | zero => exact List.Sublist.cons_cons _ (List.nil_sublist _)
      | succ pass => exact (walk_mono key (Nat.le_of_succ_le_succ before)).cons_cons _

structure LedgerRow.Sound (store : Store) (history : List Event) (key : String) (row : LedgerRow) : Prop where
  url : row.storageURL = store.objectURL key
  walked : row.state = .tombstoned → (walk key row.tombstonePass).Sublist history

structure Fresh (store : Store) (shared : Shared) (key : String) : Prop where
  row : shared.ledger key = none
  unattached : ¬ shared.attached store key
  unclaimed : .claimed key ∉ shared.history

structure Untouched (shared : Shared) (key : String) : Prop where
  unclaimed : .claimed key ∉ shared.history
  undeleted : .deleted key ∉ shared.history
  unasked : key ∉ shared.deletes

inductive Standing (store : Store) (shared : Shared) (key : String) : Prop
  | fresh (fresh : Fresh store shared key) (untouched : Untouched shared key)
      (absent : key ∉ shared.objects ∧ key ∉ shared.puts)
  | pending (row : LedgerRow) (found : shared.ledger key = some row) (state : row.state = .pending)
      (sound : row.Sound store shared.history key) (unattached : ¬ shared.attached store key)
      (untouched : Untouched shared key)
  | bound (row : shared.ledger key = none) (attached : shared.attached store key)
      (untouched : Untouched shared key)
  | condemned (claimed : .claimed key ∈ shared.history) (unattached : ¬ shared.attached store key)
      (gone : shared.ledger key = none → shared.Exhausted key)
      (rows : ∀ row, shared.ledger key = some row → row.state ≠ .pending ∧ row.Sound store shared.history key)

structure Quiet (store : Store) (shared later : Shared) (key : String) : Prop where
  ledger : later.ledger key = shared.ledger key
  attached : later.attached store key ↔ shared.attached store key
  claimed : .claimed key ∈ later.history ↔ .claimed key ∈ shared.history
  deleted : .deleted key ∈ later.history ↔ .deleted key ∈ shared.history
  history : shared.history.Sublist later.history
  deletes : key ∈ later.deletes → key ∈ shared.deletes
  stored : key ∈ later.objects ∨ key ∈ later.puts → key ∈ shared.objects ∨ key ∈ shared.puts

structure Grows (store : Store) (shared later : Shared) : Prop where
  history : shared.history.Sublist later.history
  recorded : ∀ key, Fresh store later key → Fresh store shared key

section Standings

variable {store : Store} {shared later : Shared} {key : String} {row : LedgerRow}

theorem objectURL_injective {left right : String} (same : store.objectURL left = store.objectURL right) :
    left = right := by
  have lists := congrArg String.toList same
  simp only [Store.objectURL, String.toList_append] at lists
  exact String.toList_inj.mp (List.append_cancel_left lists)

theorem LedgerRow.Sound.grown {history grown : List Event} (sound : row.Sound store history key)
    (grows : history.Sublist grown) : row.Sound store grown key :=
  ⟨sound.url, fun tombstoned => (sound.walked tombstoned).trans grows⟩

theorem Standing.quiet (standing : Standing store shared key) (quiet : Quiet store shared later key) :
    Standing store later key := by
  have untouched : Untouched shared key → Untouched later key := fun before =>
    ⟨fun claimed => before.unclaimed (quiet.claimed.mp claimed),
      fun deleted => before.undeleted (quiet.deleted.mp deleted), fun asked => before.unasked (quiet.deletes asked)⟩
  cases standing with
  | fresh fresh clean absent =>
      refine .fresh ⟨?_, ?_, ?_⟩ (untouched clean) ?_
      · rw [quiet.ledger, fresh.row]
      · rw [quiet.attached]
        exact fresh.unattached
      · rw [quiet.claimed]
        exact fresh.unclaimed
      · exact not_or.mp fun stored => not_or.mpr absent (quiet.stored stored)
  | pending row found state sound unattached clean =>
      refine .pending row ?_ state (sound.grown quiet.history) ?_ (untouched clean)
      · rw [quiet.ledger, found]
      · rw [quiet.attached]
        exact unattached
  | bound row attached clean =>
      exact .bound (quiet.ledger.trans row) (quiet.attached.mpr attached) (untouched clean)
  | condemned claimed unattached gone rows =>
      refine .condemned (quiet.claimed.mpr claimed) ?_ ?_ ?_
      · rw [quiet.attached]
        exact unattached
      · rw [quiet.ledger]
        exact fun none => (gone none).trans quiet.history
      · rw [quiet.ledger]
        exact fun row found => ⟨(rows row found).1, (rows row found).2.grown quiet.history⟩

theorem Standing.of_claimed (standing : Standing store shared key) (claimed : .claimed key ∈ shared.history) :
    ¬ shared.attached store key ∧ (shared.ledger key = none → shared.Exhausted key) ∧
      ∀ row, shared.ledger key = some row → row.state ≠ .pending ∧ row.Sound store shared.history key := by
  cases standing with
  | fresh fresh => exact absurd claimed fresh.unclaimed
  | pending _ _ _ _ _ untouched => exact absurd claimed untouched.unclaimed
  | bound _ _ untouched => exact absurd claimed untouched.unclaimed
  | condemned _ unattached gone rows => exact ⟨unattached, gone, rows⟩

theorem Standing.of_row (standing : Standing store shared key) (found : shared.ledger key = some row) :
    row.Sound store shared.history key ∧ ¬ shared.attached store key ∧
      (row.state = .pending → Untouched shared key) := by
  cases standing with
  | fresh fresh => exact absurd (found.symm.trans fresh.row) (by simp)
  | pending other same _ sound unattached untouched =>
      obtain rfl := Option.some.inj (found.symm.trans same)
      exact ⟨sound, unattached, fun _ => untouched⟩
  | bound none => exact absurd (found.symm.trans none) (by simp)
  | condemned _ unattached _ rows =>
      exact ⟨(rows row found).2, unattached, fun pending => absurd pending (rows row found).1⟩

theorem Standing.of_fresh (standing : Standing store shared key) (fresh : Fresh store shared key) :
    Untouched shared key ∧ key ∉ shared.objects ∧ key ∉ shared.puts := by
  cases standing with
  | fresh _ untouched absent => exact ⟨untouched, absent⟩
  | pending row found => exact absurd (found.symm.trans fresh.row) (by simp)
  | bound _ attached => exact absurd attached fresh.unattached
  | condemned claimed => exact absurd claimed fresh.unclaimed

theorem Standing.recorded (standing : Standing store shared key)
    (stored : key ∈ shared.objects ∨ key ∈ shared.puts) : ¬ Fresh store shared key :=
  fun fresh => (standing.of_fresh fresh).2.1 (stored.resolve_right (standing.of_fresh fresh).2.2)

theorem Grows.refl : Grows store shared shared := ⟨List.Sublist.refl _, fun _ fresh => fresh⟩

theorem Grows.claimed (grows : Grows store shared later) (claimed : .claimed key ∈ shared.history) :
    .claimed key ∈ later.history := grows.history.subset claimed

end Standings

/-- The books of the ledger: `held` are the rows that open binds have deleted, `unrecorded` the keys whose
intent may still be recorded, and `started` the keys of all upload attempts. -/
structure Sound (store : Store) (shared : Shared) (held unrecorded started : List String) : Prop where
  standing : ∀ key, Standing store shared key
  holds : ∀ key ∈ held, ∃ row, shared.ledger key = some row ∧ row.state = .pending
  single : held.Nodup
  awaits : ∀ key ∈ unrecorded, Fresh store shared key
  apart : unrecorded.Nodup
  unused : ∀ key, key ∉ started → Fresh store shared key
  begun : unrecorded ⊆ started

section Books

variable {store : Store} {shared later : Shared} {held others unrecorded rest started : List String} {key : String}
  {row : LedgerRow}

theorem mem_of_count {all : List String} (fewer : ∀ key, others.count key ≤ all.count key)
    (member : key ∈ others) : key ∈ all :=
  List.count_pos_iff.mp (Nat.lt_of_lt_of_le (List.count_pos_iff.mpr member) (fewer key))

theorem nodup_of_count {all : List String} (fewer : ∀ key, others.count key ≤ all.count key)
    (single : all.Nodup) : others.Nodup :=
  List.nodup_iff_count_le_one.mpr fun key =>
    Nat.le_trans (fewer key) (List.nodup_iff_count_le_one.mp single key)

theorem Sound.fewer (sound : Sound store shared held unrecorded started)
    (fewer : ∀ key, others.count key ≤ held.count key)
    (less : ∀ key, rest.count key ≤ unrecorded.count key) : Sound store shared others rest started :=
  ⟨sound.standing, fun key member => sound.holds key (mem_of_count fewer member),
    nodup_of_count fewer sound.single, fun key member => sound.awaits key (mem_of_count less member),
    nodup_of_count less sound.apart, sound.unused, fun _ member => sound.begun (mem_of_count less member)⟩

theorem Sound.known (sound : Sound store shared held unrecorded started) (recorded : ¬ Fresh store shared key) :
    key ∉ unrecorded ∧ key ∈ started :=
  ⟨fun member => recorded (sound.awaits key member), by_contra fun new => recorded (sound.unused key new)⟩

theorem Sound.change (sound : Sound store shared held unrecorded started) (key : String)
    (quiet : ∀ other, other ≠ key → Quiet store shared later other) (changed : Standing store later key)
    (away : key ∉ unrecorded) (known : key ∈ started) (unheld : key ∈ held → ∃ row, later.ledger key = some row ∧ row.state = .pending)
    (stays : ¬ Fresh store later key) (history : shared.history.Sublist later.history) :
    Sound store later held unrecorded started ∧ Grows store shared later := by
  have still : ∀ other, other ≠ key → (Fresh store later other ↔ Fresh store shared other) := by
    intro other different
    have same := quiet other different
    constructor
    · rintro ⟨none, unattached, unclaimed⟩
      exact ⟨same.ledger ▸ none, fun attached => unattached (same.attached.mpr attached),
        fun claimed => unclaimed (same.claimed.mpr claimed)⟩
    · rintro ⟨none, unattached, unclaimed⟩
      exact ⟨same.ledger.trans none, fun attached => unattached (same.attached.mp attached),
        fun claimed => unclaimed (same.claimed.mp claimed)⟩
  refine ⟨⟨?_, ?_, sound.single, ?_, sound.apart, ?_, sound.begun⟩, history, ?_⟩
  · intro other
    by_cases same : other = key
    · subst same
      exact changed
    · exact (sound.standing other).quiet (quiet other same)
  · intro other member
    by_cases same : other = key
    · subst same
      exact unheld member
    · rw [(quiet other same).ledger]
      exact sound.holds other member
  · intro other member
    exact (still other fun same => away (same ▸ member)).mpr (sound.awaits other member)
  · intro other new
    exact (still other fun same => new (same ▸ known)).mpr (sound.unused other new)
  · intro other fresh
    exact (still other fun same => stays (same ▸ fresh)).mp fresh

theorem put_sound (sound : Sound store shared held unrecorded started) (recorded : ¬ Fresh store shared key)
    (same : later.ledger = shared.ledger ∧ later.attachments = shared.attachments ∧
      later.history = shared.history ∧ later.deletes = shared.deletes)
    (stored : ∀ other, other ∈ later.objects ∨ other ∈ later.puts →
      other = key ∨ other ∈ shared.objects ∨ other ∈ shared.puts) :
    Sound store later held unrecorded started ∧ Grows store shared later := by
  obtain ⟨ledger, attachments, history, deletes⟩ := same
  have attached : ∀ other, later.attached store other ↔ shared.attached store other := by
    simp [Shared.attached, attachments]
  have fresh : ∀ other, Fresh store later other → Fresh store shared other := fun other fresh =>
    ⟨ledger ▸ fresh.row, fun before => fresh.unattached ((attached other).mpr before), history ▸ fresh.unclaimed⟩
  have quiet : ∀ other, other ≠ key → Quiet store shared later other := fun other different =>
    ⟨by rw [ledger], attached other, by rw [history], by rw [history], by rw [history], by rw [deletes]; exact id,
      fun present => (stored other present).resolve_left different⟩
  have untouched : Untouched shared key → Untouched later key := fun before =>
    ⟨history ▸ before.unclaimed, history ▸ before.undeleted, deletes ▸ before.unasked⟩
  obtain ⟨away, known⟩ := sound.known recorded
  refine sound.change key quiet ?_ away known ?_ (fun again => recorded (fresh key again)) (by rw [history])
  · cases sound.standing key with
    | fresh before => exact absurd before recorded
    | pending row found state right unattached clean =>
        exact .pending row (ledger ▸ found) state (history ▸ right)
          (fun after => unattached ((attached key).mp after)) (untouched clean)
    | bound row bound clean => exact .bound (ledger ▸ row) ((attached key).mpr bound) (untouched clean)
    | condemned claimed unattached gone rows =>
        refine .condemned (history ▸ claimed) (fun after => unattached ((attached key).mp after)) ?_ ?_
        · unfold Shared.Exhausted
          rw [ledger, history]
          exact gone
        · rw [ledger, history]
          exact rows
  · rw [ledger]
    exact sound.holds key

theorem remove_sound (sound : Sound store shared held unrecorded started) (claimed : .claimed key ∈ shared.history)
    (same : later.ledger = shared.ledger ∧ later.attachments = shared.attachments ∧ later.puts = shared.puts)
    (history : later.history = shared.history ∨ later.history = .deleted key :: shared.history)
    (deletes : ∀ other, other ≠ key → other ∈ later.deletes → other ∈ shared.deletes)
    (objects : ∀ other, other ∈ later.objects → other ∈ shared.objects) :
    Sound store later held unrecorded started ∧ Grows store shared later := by
  obtain ⟨ledger, attachments, puts⟩ := same
  have attached : ∀ other, later.attached store other ↔ shared.attached store other := by
    simp [Shared.attached, attachments]
  have grows : shared.history.Sublist later.history := by
    rcases history with same | same
    · rw [same]
    · rw [same]
      exact (List.Sublist.refl _).cons _
  have events : ∀ event, event ≠ .deleted key → (event ∈ later.history ↔ event ∈ shared.history) := by
    intro event different
    rcases history with same | same
    · rw [same]
    · rw [same, List.mem_cons]
      exact or_iff_right different
  have quiet : ∀ other, other ≠ key → Quiet store shared later other := fun other different =>
    ⟨by rw [ledger], attached other, events _ (by simp), events _ (by simpa using different), grows,
      deletes other different, fun stored => stored.imp (objects other) (by rw [puts]; exact id)⟩
  obtain ⟨unattached, gone, rows⟩ := (sound.standing key).of_claimed claimed
  have after : .claimed key ∈ later.history := grows.subset claimed
  obtain ⟨away, known⟩ := sound.known fun fresh => fresh.unclaimed claimed
  refine sound.change key quiet ?_ away known ?_ (fun fresh => fresh.unclaimed after) grows
  · refine .condemned after (fun attaches => unattached ((attached key).mp attaches)) ?_ ?_
    · rw [ledger]
      exact fun none => (gone none).trans grows
    · rw [ledger]
      exact fun row found => ⟨(rows row found).1, (rows row found).2.grown grows⟩
  · rw [ledger]
    exact sound.holds key

theorem row_sound {changed : LedgerRow} (sound : Sound store shared held unrecorded started)
    (found : shared.ledger key = some row)
    (same : changed.state = row.state ∧ changed.storageURL = row.storageURL ∧
      changed.tombstonePass = row.tombstonePass) :
    Sound store { shared with ledger := shared.ledger.set key (some changed) } held unrecorded started ∧
      Grows store shared { shared with ledger := shared.ledger.set key (some changed) } := by
  obtain ⟨state, url, pass⟩ := same
  have kept : row.Sound store shared.history key → changed.Sound store shared.history key := by
    rintro ⟨right, walked⟩
    refine ⟨url.trans right, ?_⟩
    rw [state, pass]
    exact walked
  have known := sound.known fun fresh => absurd (found.symm.trans fresh.row) (by simp)
  refine sound.change key ?_ ?_ known.1 known.2 ?_ ?_ (List.Sublist.refl _)
  · exact fun other different => ⟨by simp [different], Iff.rfl, Iff.rfl, Iff.rfl, List.Sublist.refl _, id, id⟩
  · cases sound.standing key with
    | fresh fresh => exact absurd (found.symm.trans fresh.row) (by simp)
    | pending other same pending right unattached untouched =>
        obtain rfl := Option.some.inj (found.symm.trans same)
        exact .pending changed (by simp) (state.trans pending) (kept right) unattached
          ⟨untouched.unclaimed, untouched.undeleted, untouched.unasked⟩
    | bound none => exact absurd (found.symm.trans none) (by simp)
    | condemned claimed unattached gone rows =>
        refine .condemned claimed unattached (by simp) ?_
        intro other same
        obtain rfl : changed = other := by simpa using same
        exact ⟨state ▸ (rows row found).1, kept (rows row found).2⟩
  · intro member
    obtain ⟨other, same, pending⟩ := sound.holds key member
    obtain rfl := Option.some.inj (found.symm.trans same)
    exact ⟨changed, by simp, state.trans pending⟩
  · exact fun fresh => absurd fresh.row (by simp)

theorem condemned_sound {changed : Option LedgerRow} {history : List Event}
    (sound : Sound store shared held unrecorded started)
    (claimed : .claimed key ∈ shared.history) (grows : shared.history.Sublist history)
    (events : ∀ other, (.claimed other ∈ history ↔ .claimed other ∈ shared.history) ∧
      (.deleted other ∈ history ↔ .deleted other ∈ shared.history))
    (gone : changed = none → (beforeTombstone key tombstoneRedelete.length).Sublist history)
    (rows : ∀ row, changed = some row → row.state ≠ .pending ∧ row.Sound store history key) :
    Sound store { shared with ledger := shared.ledger.set key changed, history := history } held unrecorded
        started ∧
      Grows store shared { shared with ledger := shared.ledger.set key changed, history := history } := by
  obtain ⟨unattached, -, before⟩ := (sound.standing key).of_claimed claimed
  have after : .claimed key ∈ history := (events key).1.mpr claimed
  obtain ⟨away, known⟩ := sound.known fun fresh => fresh.unclaimed claimed
  refine sound.change key ?_ ?_ away known ?_ (fun fresh => fresh.unclaimed after) grows
  · exact fun other different =>
      ⟨by simp [different], Iff.rfl, (events other).1, (events other).2, grows, id, id⟩
  · refine .condemned after unattached (fun none => gone (by simpa using none)) ?_
    exact fun row same => rows row (by simpa using same)
  · intro member
    obtain ⟨other, same, pending⟩ := sound.holds key member
    exact absurd pending (before other same).1

theorem record_sound (sound : Sound store shared held (key :: rest) started) (state : row.state = .pending)
    (url : row.storageURL = store.objectURL key) :
    Sound store { shared with ledger := shared.ledger.set key (some row) } held rest started ∧
      Grows store shared { shared with ledger := shared.ledger.set key (some row) } := by
  have fresh := sound.awaits key (by simp)
  obtain ⟨untouched, -⟩ := (sound.standing key).of_fresh fresh
  have away := (List.nodup_cons.mp sound.apart).1
  have fewer : Sound store shared held rest started :=
    sound.fewer (fun _ => Nat.le_refl _) fun other => by rw [List.count_cons]; omega
  refine fewer.change key ?_ ?_ away (sound.begun (by simp)) ?_ ?_ (List.Sublist.refl _)
  · exact fun other different => ⟨by simp [different], Iff.rfl, Iff.rfl, Iff.rfl, List.Sublist.refl _, id, id⟩
  · exact .pending row (by simp) state ⟨url, by simp [state]⟩ fresh.unattached
      ⟨untouched.unclaimed, untouched.undeleted, untouched.unasked⟩
  · exact fun _ => ⟨row, by simp, state⟩
  · exact fun again => absurd again.row (by simp)

theorem claimRows_sound {taken : List String} {leaseToken now : Nat}
    (sound : Sound store shared held unrecorded started) (free : ∀ key ∈ taken, key ∉ held)
    (present : ∀ key ∈ taken, ∃ row, shared.ledger key = some row) :
    Sound store (shared.claimRows taken leaseToken now) held unrecorded started ∧
      Grows store shared (shared.claimRows taken leaseToken now) := by
  have grows : shared.history.Sublist (shared.claimRows taken leaseToken now).history :=
    List.sublist_append_right _ _
  have claims : ∀ other, .claimed other ∈ (shared.claimRows taken leaseToken now).history ↔
      other ∈ taken ∨ .claimed other ∈ shared.history := by
    simp [Shared.claimRows]
  have deletes : ∀ other, .deleted other ∈ (shared.claimRows taken leaseToken now).history ↔
      .deleted other ∈ shared.history := by
    simp [Shared.claimRows]
  have untaken : ∀ other, other ∉ taken → Quiet store shared (shared.claimRows taken leaseToken now) other := by
    intro other not
    refine ⟨if_neg not, Iff.rfl, ?_, deletes other, grows, id, id⟩
    rw [claims]
    exact or_iff_right not
  have fresh : ∀ other, Fresh store (shared.claimRows taken leaseToken now) other → Fresh store shared other := by
    intro other fresh
    have not : other ∉ taken := fun member => fresh.unclaimed ((claims other).mpr (Or.inl member))
    exact ⟨(untaken other not).ledger ▸ fresh.row, fresh.unattached,
      fun claimed => fresh.unclaimed ((claims other).mpr (Or.inr claimed))⟩
  have still : ∀ other, Fresh store shared other → Fresh store (shared.claimRows taken leaseToken now) other := by
    intro other fresh
    have not : other ∉ taken := fun member => by
      obtain ⟨row, found⟩ := present other member
      exact absurd (found.symm.trans fresh.row) (by simp)
    exact ⟨(untaken other not).ledger.trans fresh.row, fresh.unattached,
      fun claimed => fresh.unclaimed ((untaken other not).claimed.mp claimed)⟩
  refine ⟨⟨?_, ?_, sound.single, fun other member => still other (sound.awaits other member), sound.apart,
    fun other new => still other (sound.unused other new), sound.begun⟩, grows, fresh⟩
  · intro other
    by_cases member : other ∈ taken
    · obtain ⟨row, found⟩ := present other member
      obtain ⟨right, unattached, -⟩ := (sound.standing other).of_row found
      have here : (shared.claimRows taken leaseToken now).ledger other = some (row.claim leaseToken now) := by
        simp [Shared.claimRows, member, found]
      refine .condemned ((claims other).mpr (Or.inl member)) unattached (by simp [here]) ?_
      intro changed same
      obtain rfl := Option.some.inj (here.symm.trans same)
      by_cases tombstoned : row.state = .tombstoned
      · refine ⟨by simp [LedgerRow.claim, tombstoned], right.url, fun _ => ?_⟩
        exact (right.walked tombstoned).trans grows
      · exact ⟨by simp [LedgerRow.claim, tombstoned], right.url, by simp [LedgerRow.claim, tombstoned]⟩
    · exact (sound.standing other).quiet (untaken other member)
  · intro other member
    have not : other ∉ taken := fun taking => free other taking member
    rw [(untaken other not).ledger]
    exact sound.holds other member

structure Covers (store : Store) (held : List String) (attachments : List Attachment) : Prop where
  urls : ∀ attachment ∈ attachments, ∃ key ∈ held, attachment.url = store.objectURL key
  covers : ∀ key ∈ held, ∃ attachment ∈ attachments, attachment.url = store.objectURL key

theorem land_sound {opened : BindTransaction} (covers : Covers store opened.held opened.attachments)
    (sound : Sound store shared (opened.held ++ others) unrecorded started) :
    Sound store (shared.land opened) others unrecorded started ∧ Grows store shared (shared.land opened) := by
  have attached : ∀ key, (shared.land opened).attached store key ↔
      key ∈ opened.held ∨ shared.attached store key := by
    intro key
    constructor
    · rintro ⟨attachment, member, url⟩
      rcases List.mem_append.mp member with new | old
      · obtain ⟨other, holds, same⟩ := covers.urls attachment new
        exact Or.inl (objectURL_injective (url.symm.trans same) ▸ holds)
      · exact Or.inr ⟨attachment, old, url⟩
    · rintro (holds | ⟨attachment, member, url⟩)
      · obtain ⟨attachment, member, url⟩ := covers.covers key holds
        exact ⟨attachment, List.mem_append_left _ member, url⟩
      · exact ⟨attachment, List.mem_append_right _ member, url⟩
  have unheld : ∀ key, key ∉ opened.held → Quiet store shared (shared.land opened) key := by
    intro key not
    refine ⟨if_neg not, ?_, Iff.rfl, Iff.rfl, List.Sublist.refl _, id, id⟩
    rw [attached]
    exact or_iff_right not
  have pendings : ∀ key ∈ opened.held, ∃ row, shared.ledger key = some row ∧ row.state = .pending :=
    fun key member => sound.holds key (List.mem_append_left _ member)
  have fresh : ∀ key, Fresh store (shared.land opened) key → Fresh store shared key := by
    intro key fresh
    have not : key ∉ opened.held := fun member => fresh.unattached ((attached key).mpr (Or.inl member))
    exact ⟨(unheld key not).ledger ▸ fresh.row,
      fun before => fresh.unattached ((attached key).mpr (Or.inr before)), fresh.unclaimed⟩
  have still : ∀ key, Fresh store shared key → Fresh store (shared.land opened) key := by
    intro key fresh
    have not : key ∉ opened.held := fun member => by
      obtain ⟨row, found, -⟩ := pendings key member
      exact absurd (found.symm.trans fresh.row) (by simp)
    exact ⟨(unheld key not).ledger.trans fresh.row,
      fun after => fresh.unattached ((unheld key not).attached.mp after), fresh.unclaimed⟩
  have apart := List.nodup_append.mp sound.single
  refine ⟨⟨?_, ?_, apart.2.1, fun key member => still key (sound.awaits key member), sound.apart,
    fun key new => still key (sound.unused key new), sound.begun⟩, List.Sublist.refl _, fresh⟩
  · intro key
    by_cases member : key ∈ opened.held
    · obtain ⟨row, found, pending⟩ := pendings key member
      have untouched := ((sound.standing key).of_row found).2.2 pending
      exact .bound (if_pos member) ((attached key).mpr (Or.inl member))
        ⟨untouched.unclaimed, untouched.undeleted, untouched.unasked⟩
    · exact (sound.standing key).quiet (unheld key member)
  · intro key member
    have not : key ∉ opened.held := fun mine => apart.2.2 key mine key member rfl
    rw [(unheld key not).ledger]
    exact sound.holds key (List.mem_append_right _ member)

theorem hold_sound {claimed : List String} (sound : Sound store shared held unrecorded started)
    (pending : ∀ key ∈ claimed, ∃ row, shared.ledger key = some row ∧ row.state = .pending)
    (single : claimed.Nodup) (free : ∀ key ∈ claimed, key ∉ held) :
    Sound store shared (claimed ++ held) unrecorded started := by
  refine ⟨sound.standing, ?_, ?_, sound.awaits, sound.apart, sound.unused, sound.begun⟩
  · intro key member
    rcases List.mem_append.mp member with mine | old
    · exact pending key mine
    · exact sound.holds key old
  · refine List.nodup_append.mpr ⟨single, sound.single, ?_⟩
    rintro key mine other old rfl
    exact free key mine old

end Books

end MulticaOS.Media
