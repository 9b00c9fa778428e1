import Mathlib.Order.Interval.Finset.Nat

/-!
The assembler of multi-frame payloads, translated from `ws_chunk_assembler.go`.  `none` stands
for the panic of an index out of range, which ends the process.
-/

namespace MulticaOS.LongConnection

abbrev Bytes := List UInt8

/-- A slot is `nil` until a chunk is stored, and after an empty one: `append` copies it to `nil`. -/
def copyBytes (payload : Bytes) : Option Bytes := if payload = [] then none else some payload

structure ChunkEntry where
  chunks : List (Option Bytes)
  received : Nat
  deadline : Int

abbrev Buffer := String → Option ChunkEntry

structure Call where
  messageID : String
  sum : Int
  seq : Int
  payload : Bytes
  now : Int
  later : Int

def Call.malformed (call : Call) : Bool :=
  call.messageID = "" || call.sum ≤ 0 || call.seq < 0 || call.seq ≥ call.sum

def gcExpired (buffer : Buffer) (now : Int) : Buffer := fun messageID =>
  (buffer messageID).filter fun entry => !(entry.deadline < now)

def newEntry (ttl : Int) (call : Call) : ChunkEntry :=
  { chunks := List.replicate call.sum.toNat none, received := 0, deadline := call.later + ttl }

def concatenate (chunks : List (Option Bytes)) : Bytes := chunks.flatMap fun chunk => chunk.getD []

def ChunkEntry.store (entry : ChunkEntry) (ttl : Int) (call : Call) (slot : Option Bytes) : ChunkEntry :=
  { chunks := entry.chunks.set call.seq.toNat (copyBytes call.payload)
    received := if slot = none then entry.received + 1 else entry.received
    deadline := call.later + ttl }

def settle (buffer : Buffer) (messageID : String) (entry : ChunkEntry) : Buffer × Option Bytes :=
  if entry.received < entry.chunks.length then (Function.update buffer messageID (some entry), none)
  else (Function.update buffer messageID none, some (concatenate entry.chunks))

def admitChunk (ttl : Int) (buffer : Buffer) (call : Call) : Option (Buffer × Option Bytes) :=
  if call.malformed then some (buffer, none)
  else
    let collected := gcExpired buffer call.now
    let entry := (collected call.messageID).getD (newEntry ttl call)
    match entry.chunks[call.seq.toNat]? with
    | none => none
    | some slot => some (settle collected call.messageID (entry.store ttl call slot))

def admitAll (ttl : Int) : Buffer → List Call → Option (List (Option Bytes))
  | _, [] => some []
  | buffer, call :: rest =>
      match admitChunk ttl buffer call with
      | none => none
      | some (next, returned) => (admitAll ttl next rest).map (returned :: ·)

def newChunkAssembler : Buffer := fun _ => none

def Fits (buffer : Buffer) (call : Call) : Prop :=
  ∀ entry, gcExpired buffer call.now call.messageID = some entry → call.seq.toNat < entry.chunks.length

theorem inside_of_wellFormed {call : Call} (wellFormed : call.malformed = false) :
    call.seq.toNat < call.sum.toNat := by
  simp only [Call.malformed, Bool.or_eq_false_iff, decide_eq_false_iff_not] at wellFormed
  omega

theorem admitChunk_isSome {ttl : Int} {buffer : Buffer} {call : Call} :
    (admitChunk ttl buffer call).isSome ↔ (call.malformed = false → Fits buffer call) := by
  cases malformed : call.malformed with
  | true => simp [admitChunk, malformed]
  | false =>
      have inside := inside_of_wellFormed malformed
      simp only [admitChunk, malformed, Bool.false_eq_true, if_false, forall_const, Fits]
      cases found : gcExpired buffer call.now call.messageID with
      | none =>
          have slot : (newEntry ttl call).chunks[call.seq.toNat]? = some none := by
            simp [newEntry, inside]
          simp [slot]
      | some entry =>
          simp only [Option.getD_some, Option.some.injEq, forall_eq']
          cases slot : entry.chunks[call.seq.toNat]? with
          | none =>
              have outside := List.getElem?_eq_none_iff.mp slot
              simp [outside]
          | some chunk =>
              obtain ⟨within, -⟩ := List.getElem?_eq_some_iff.mp slot
              simp [within]

def fitsAll (ttl : Int) : Buffer → List Call → Prop
  | _, [] => True
  | buffer, call :: rest =>
      (call.malformed = false → Fits buffer call) ∧
        ∀ next result, admitChunk ttl buffer call = some (next, result) → fitsAll ttl next rest

theorem admitAll_isSome {ttl : Int} (calls : List Call) :
    ∀ buffer, (admitAll ttl buffer calls).isSome ↔ fitsAll ttl buffer calls := by
  induction calls with
  | nil => exact fun buffer => by simp [admitAll, fitsAll]
  | cons call rest ih =>
      intro buffer
      rw [admitAll, fitsAll, ← @admitChunk_isSome ttl]
      cases step : admitChunk ttl buffer call with
      | none => simp
      | some pair =>
          obtain ⟨after, outcome⟩ := pair
          simp only [Option.isSome_map, ih after, Option.isSome_some, true_and, Option.some.injEq,
            Prod.mk.injEq]
          exact ⟨fun fits _ _ ⟨same, _⟩ => same ▸ fits, fun fits => fits after outcome ⟨rfl, rfl⟩⟩

section Message

variable (ttl : Int) (messageID : String) (total : Nat) (payloads : Nat → Bytes)

def Call.carries (call : Call) : Bool :=
  call.messageID = messageID && 0 ≤ call.seq && call.seq < total

structure Uniform (calls : List Call) : Prop where
  sum : ∀ call ∈ calls, call.messageID = messageID → call.sum = total
  payload : ∀ call ∈ calls, call.carries messageID total = true →
    call.payload = payloads call.seq.toNat

def Clocked : Int → List Call → Prop
  | _, [] => True
  | time, call :: rest => time ≤ call.now ∧ call.now ≤ call.later ∧ Clocked call.later rest

/-- No gap between two chunks of the message is longer than the TTL; `last` is the time of the chunk
before. -/
def Steady : Option Int → List Call → Prop
  | _, [] => True
  | last, call :: rest =>
      if call.carries messageID total then
        (∀ time, last = some time → call.now ≤ time + ttl) ∧ Steady (some call.later) rest
      else Steady last rest

/-- What the calls for the message should return: the payload with the last seq that is missing since
the completion before. -/
def expected (held : Finset Nat) : List Call → List (Option Bytes)
  | [] => []
  | call :: rest =>
      if call.messageID ≠ messageID then expected held rest
      else if call.carries messageID total then
        let next := insert call.seq.toNat held
        if next = Finset.range total then
          some ((List.range total).flatMap payloads) :: expected ∅ rest
        else none :: expected next rest
      else none :: expected held rest

def returned (messageID : String) (calls : List Call) (outcomes : List (Option Bytes)) :
    List (Option Bytes) :=
  ((calls.zip outcomes).filter fun pair => pair.1.messageID = messageID).map Prod.snd

def emptyOnce (held : Finset Nat) : List Call → Prop
  | [] => True
  | call :: rest =>
      if call.carries messageID total then
        let next := insert call.seq.toNat held
        (call.seq.toNat ∈ held → payloads call.seq.toNat ≠ []) ∧
          if next = Finset.range total then emptyOnce ∅ rest else emptyOnce next rest
      else emptyOnce held rest

structure Holds (held : Finset Nat) (entry : ChunkEntry) : Prop where
  length : entry.chunks.length = total
  slots : ∀ seq < total, entry.chunks[seq]? = some (if seq ∈ held then copyBytes (payloads seq) else none)
  received : entry.received = held.card
  within : held ⊆ Finset.range total

variable {ttl messageID total payloads}

theorem holds_newEntry {call : Call} (sum : call.sum = total) :
    Holds total payloads ∅ (newEntry ttl call) := by
  constructor
  · simp [newEntry, sum]
  · intro seq inside
    simp [newEntry, sum, inside]
  · rfl
  · simp

theorem Holds.store {held : Finset Nat} {entry : ChunkEntry} {call : Call}
    (holds : Holds total payloads held entry) (inside : call.seq.toNat < total)
    (payload : call.payload = payloads call.seq.toNat)
    (once : call.seq.toNat ∈ held → payloads call.seq.toNat ≠ []) :
    Holds total payloads (insert call.seq.toNat held)
      (entry.store ttl call (if call.seq.toNat ∈ held then copyBytes (payloads call.seq.toNat) else none)) := by
  constructor
  · simp [ChunkEntry.store, holds.length]
  · intro seq small
    simp only [ChunkEntry.store, Finset.mem_insert]
    by_cases here : call.seq.toNat = seq
    · subst here
      simp [payload, holds.length, inside]
    · rw [List.getElem?_set_ne here, holds.slots seq small]
      simp [Ne.symm here]
  · simp only [ChunkEntry.store, holds.received]
    by_cases known : call.seq.toNat ∈ held
    · simp [known, copyBytes, once known]
    · simp [known]
  · exact Finset.insert_subset (Finset.mem_range.mpr inside) holds.within

theorem Holds.complete_iff {held : Finset Nat} {entry : ChunkEntry} (holds : Holds total payloads held entry) :
    entry.received < entry.chunks.length ↔ held ≠ Finset.range total := by
  have small := Finset.card_le_card holds.within
  rw [Finset.card_range] at small
  rw [holds.received, holds.length]
  constructor
  · rintro missing rfl
    rw [Finset.card_range] at missing
    exact absurd missing (Nat.lt_irrefl _)
  · intro partialSet
    refine Nat.lt_of_le_of_ne small fun full => partialSet ?_
    exact Finset.eq_of_subset_of_card_le holds.within (by rw [Finset.card_range, full])

theorem getD_copyBytes (payload : Bytes) : (copyBytes payload).getD [] = payload := by
  rw [copyBytes]
  split
  · rename_i empty
    exact empty.symm
  · rfl

theorem Holds.concatenate {entry : ChunkEntry} (holds : Holds total payloads (Finset.range total) entry) :
    concatenate entry.chunks = (List.range total).flatMap payloads := by
  have chunks : entry.chunks = (List.range total).map fun seq => copyBytes (payloads seq) := by
    refine List.ext_getElem? fun seq => ?_
    by_cases inside : seq < total
    · rw [holds.slots seq inside]
      simp [inside]
    · rw [List.getElem?_eq_none_iff.mpr (by rw [holds.length]; omega)]
      simp [Nat.not_lt.mp inside]
  rw [LongConnection.concatenate, chunks, List.flatMap_map]
  simp only [getD_copyBytes]

theorem Holds.settle {held : Finset Nat} {entry : ChunkEntry} {call : Call} (buffer : Buffer)
    (holds : Holds total payloads held entry) (inside : call.seq.toNat < total)
    (payload : call.payload = payloads call.seq.toNat)
    (once : call.seq.toNat ∈ held → payloads call.seq.toNat ≠ []) :
    ∃ stored, Holds total payloads (insert call.seq.toNat held) stored ∧
      stored.deadline = call.later + ttl ∧
      (entry.chunks[call.seq.toNat]?).map (fun slot =>
        LongConnection.settle buffer call.messageID (entry.store ttl call slot)) =
      some (if insert call.seq.toNat held = Finset.range total then
          (Function.update buffer call.messageID none, some ((List.range total).flatMap payloads))
        else (Function.update buffer call.messageID (some stored), none)) := by
  have stored : Holds total payloads (insert call.seq.toNat held) (entry.store ttl call _) :=
    holds.store inside payload once
  refine ⟨_, stored, rfl, ?_⟩
  rw [holds.slots _ inside, Option.map_some, LongConnection.settle]
  by_cases full : insert call.seq.toNat held = Finset.range total
  · rw [if_neg (fun missing => stored.complete_iff.mp missing full), if_pos full]
    rw [full] at stored
    rw [stored.concatenate]
  · rw [if_pos (stored.complete_iff.mpr full), if_neg full]

/-! What a call of the message finds in the buffer, as long as it comes in time. -/

theorem gcExpired_gcExpired (buffer : Buffer) {first second : Int} (ordered : first ≤ second) :
    gcExpired (gcExpired buffer first) second = gcExpired buffer second := by
  funext key
  simp only [gcExpired, Option.filter_filter]
  congr 1
  funext entry
  by_cases gone : entry.deadline < first
  · have goneLater : entry.deadline < second := by omega
    simp [gone, goneLater]
  · simp [gone]

variable (ttl messageID total payloads) in
def Stands (held : Finset Nat) (last : Option Int) (time : Int) (buffer : Buffer) : Prop :=
  ∀ now, time ≤ now → (∀ before, last = some before → now ≤ before + ttl) →
    (held = ∅ ∧ gcExpired buffer now messageID = none) ∨
      ∃ entry, gcExpired buffer now messageID = some entry ∧ Holds total payloads held entry

theorem stands_newChunkAssembler (last : Option Int) (time : Int) :
    Stands ttl messageID total payloads ∅ last time newChunkAssembler :=
  fun _ _ _ => Or.inl ⟨rfl, rfl⟩

theorem Stands.later {held : Finset Nat} {last : Option Int} {time next : Int} {buffer : Buffer}
    (stands : Stands ttl messageID total payloads held last time buffer) (ordered : time ≤ next) :
    Stands ttl messageID total payloads held last next buffer :=
  fun now after timely => stands now (by omega) timely

theorem Stands.of_gcExpired {held : Finset Nat} {last : Option Int} {time next : Int} {buffer changed : Buffer}
    (stands : Stands ttl messageID total payloads held last time buffer) (ordered : time ≤ next)
    (same : changed messageID = gcExpired buffer next messageID) :
    Stands ttl messageID total payloads held last next changed := by
  intro now after timely
  have agrees : gcExpired changed now messageID = gcExpired buffer now messageID := by
    rw [← gcExpired_gcExpired buffer after]
    simp only [gcExpired, same]
  rw [agrees]
  exact stands now (by omega) timely

theorem admitChunk_other {buffer changed : Buffer} {call : Call} {result : Option Bytes}
    (run : admitChunk ttl buffer call = some (changed, result)) (other : call.messageID ≠ messageID) :
    changed messageID = buffer messageID ∨ changed messageID = gcExpired buffer call.now messageID := by
  rw [admitChunk] at run
  split at run
  · cases run
    exact Or.inl rfl
  · dsimp only at run
    split at run
    · cases run
    · simp only [settle] at run
      split at run <;> cases run <;> exact Or.inr (Function.update_of_ne (Ne.symm other) _ _)

theorem Stands.admitChunk {held : Finset Nat} {last : Option Int} {time : Int} {buffer : Buffer} {call : Call}
    (stands : Stands ttl messageID total payloads held last time buffer) (after : time ≤ call.now)
    (timely : ∀ before, last = some before → call.now ≤ before + ttl)
    (wellFormed : call.malformed = false) (ours : call.messageID = messageID) (sum : call.sum = total)
    (payload : call.payload = payloads call.seq.toNat)
    (once : call.seq.toNat ∈ held → payloads call.seq.toNat ≠ []) :
    ∃ stored, Holds total payloads (insert call.seq.toNat held) stored ∧
      stored.deadline = call.later + ttl ∧
      LongConnection.admitChunk ttl buffer call =
        some (if insert call.seq.toNat held = Finset.range total then
            (Function.update (gcExpired buffer call.now) messageID none,
              some ((List.range total).flatMap payloads))
          else (Function.update (gcExpired buffer call.now) messageID (some stored), none)) := by
  subst ours
  have holds : Holds total payloads held
      ((gcExpired buffer call.now call.messageID).getD (newEntry ttl call)) := by
    rcases stands call.now after timely with ⟨rfl, absent⟩ | ⟨entry, present, holds⟩
    · rw [absent]
      exact holds_newEntry sum
    · rw [present]
      exact holds
  have inside : call.seq.toNat < total := by
    have small := inside_of_wellFormed wellFormed
    omega
  obtain ⟨stored, holdsStored, deadline, settled⟩ :=
    holds.settle (gcExpired buffer call.now) inside payload once
  refine ⟨stored, holdsStored, deadline, ?_⟩
  rw [← settled, LongConnection.admitChunk, wellFormed, if_neg Bool.false_ne_true]
  dsimp only
  cases (Option.getD (gcExpired buffer call.now call.messageID) (newEntry ttl call)).chunks[call.seq.toNat]? <;> rfl

theorem stands_update {held : Finset Nat} {stored : ChunkEntry} {next : Int} (buffer : Buffer)
    (holds : Holds total payloads held stored) (deadline : stored.deadline = next + ttl) :
    Stands ttl messageID total payloads held (some next) next
      (Function.update buffer messageID (some stored)) := by
  intro now _ timely
  have within := timely next rfl
  refine Or.inr ⟨stored, ?_, holds⟩
  rw [gcExpired, Function.update_self, Option.filter_some, if_pos]
  simp only [Bool.not_eq_true', decide_eq_false_iff_not]
  omega

theorem stands_removed (last : Option Int) (time : Int) (buffer : Buffer) :
    Stands ttl messageID total payloads ∅ last time (Function.update buffer messageID none) := by
  intro now _ _
  refine Or.inl ⟨rfl, ?_⟩
  rw [gcExpired, Function.update_self]
  rfl

theorem malformed_eq_not_carries {call : Call} (named : messageID ≠ "") (ours : call.messageID = messageID)
    (sum : call.sum = total) : call.malformed = !call.carries messageID total := by
  subst ours
  rw [Bool.eq_iff_iff]
  simp only [Call.malformed, Call.carries, Bool.or_eq_true, Bool.not_eq_true', Bool.and_eq_false_iff,
    decide_eq_true_eq, decide_eq_false_iff_not, sum, named, false_or, not_true_eq_false]
  omega

theorem returned_cons (messageID : String) (call : Call) (rest : List Call) (result : Option Bytes)
    (results : List (Option Bytes)) :
    returned messageID (call :: rest) (result :: results) =
      if call.messageID = messageID then result :: returned messageID rest results
      else returned messageID rest results := by
  by_cases ours : call.messageID = messageID <;> simp [returned, ours]

theorem Uniform.tail {call : Call} {rest : List Call}
    (uniform : Uniform messageID total payloads (call :: rest)) : Uniform messageID total payloads rest :=
  ⟨fun other member => uniform.sum other (List.mem_cons_of_mem _ member),
    fun other member => uniform.payload other (List.mem_cons_of_mem _ member)⟩

theorem returned_eq_expected (named : messageID ≠ "") (calls : List Call) :
    ∀ (held : Finset Nat) (last : Option Int) (time : Int) (buffer : Buffer) (outcomes : List (Option Bytes)),
      Stands ttl messageID total payloads held last time buffer → Clocked time calls →
      Steady ttl messageID total last calls → Uniform messageID total payloads calls →
      emptyOnce messageID total payloads held calls → admitAll ttl buffer calls = some outcomes →
      returned messageID calls outcomes = expected messageID total payloads held calls := by
  induction calls with
  | nil =>
      intro held last time buffer outcomes _ _ _ _ _ run
      cases run
      rfl
  | cons call rest ih =>
      intro held last time buffer outcomes stands clocked steady uniform once run
      obtain ⟨after, ordered, clocked⟩ := clocked
      simp only [admitAll] at run
      cases step : LongConnection.admitChunk ttl buffer call with
      | none => simp [step] at run
      | some pair =>
          obtain ⟨next, result⟩ := pair
          simp only [step, Option.map_eq_some_iff] at run
          obtain ⟨results, run, rfl⟩ := run
          rw [returned_cons, expected]
          by_cases ours : call.messageID = messageID
          · have sum := uniform.sum call List.mem_cons_self ours
            have malformed := malformed_eq_not_carries named ours sum
            rw [if_pos ours, if_neg (fun other => other ours)]
            cases carried : call.carries messageID total with
            | false =>
                rw [carried, Bool.not_false] at malformed
                rw [LongConnection.admitChunk, if_pos malformed] at step
                cases step
                simp only [Steady, carried, Bool.false_eq_true, if_false] at steady
                simp only [emptyOnce, carried, Bool.false_eq_true, if_false] at once
                rw [if_neg Bool.false_ne_true,
                  ih held last call.later buffer results (stands.later (by omega)) clocked steady uniform.tail
                    once run]
            | true =>
                rw [carried, Bool.not_true] at malformed
                simp only [Steady, carried, if_true] at steady
                simp only [emptyOnce, carried, if_true] at once
                obtain ⟨timely, steady⟩ := steady
                obtain ⟨fresh, once⟩ := once
                have payload := uniform.payload call List.mem_cons_self carried
                obtain ⟨stored, holds, deadline, stepped⟩ :=
                  stands.admitChunk after timely malformed ours sum payload fresh
                rw [stepped, Option.some.injEq] at step
                rw [if_pos rfl]
                dsimp only
                by_cases full : insert call.seq.toNat held = Finset.range total
                · rw [if_pos full] at step once ⊢
                  cases step
                  rw [ih ∅ (some call.later) call.later _ results (stands_removed _ _ _) clocked steady
                    uniform.tail once run]
                · rw [if_neg full] at step once ⊢
                  cases step
                  rw [ih _ (some call.later) call.later _ results (stands_update _ holds deadline) clocked
                    steady uniform.tail once run]
          · have notCarried : call.carries messageID total = false := by simp [Call.carries, ours]
            simp only [Steady, notCarried, Bool.false_eq_true, if_false] at steady
            simp only [emptyOnce, notCarried, Bool.false_eq_true, if_false] at once
            rw [if_neg ours, if_pos ours]
            refine ih held last call.later next results ?_ clocked steady uniform.tail once run
            rcases admitChunk_other step ours with same | collected
            · have kept : Stands ttl messageID total payloads held last call.now buffer := stands.later after
              intro now since timely
              simpa only [gcExpired, same] using kept now (by omega) timely
            · exact (stands.of_gcExpired after collected).later ordered

theorem emptyOnce_of_nonempty (calls : List Call) (uniform : Uniform messageID total payloads calls)
    (nonempty : ∀ call ∈ calls, call.payload ≠ []) :
    ∀ held, emptyOnce messageID total payloads held calls := by
  induction calls with
  | nil => exact fun _ => trivial
  | cons call rest ih =>
      intro held
      have restHolds := ih uniform.tail fun other member => nonempty other (List.mem_cons_of_mem _ member)
      rw [emptyOnce]
      cases carried : call.carries messageID total with
      | false => simpa using restHolds held
      | true =>
          rw [if_pos rfl]
          refine ⟨fun _ => ?_, ?_⟩
          · rw [← uniform.payload call List.mem_cons_self carried]
            exact nonempty call List.mem_cons_self
          · split <;> exact restHolds _

end Message

/-- No call indexes out of range, and each message with one sum and stable payloads is reassembled. -/
def Exact (ttl : Int) (calls : List Call) : Prop :=
  ∃ outcomes, admitAll ttl newChunkAssembler calls = some outcomes ∧
    ∀ messageID total payloads, messageID ≠ "" → 1 ≤ total → Uniform messageID total payloads calls →
      Steady ttl messageID total none calls →
      returned messageID calls outcomes = expected messageID total payloads ∅ calls

end MulticaOS.LongConnection
