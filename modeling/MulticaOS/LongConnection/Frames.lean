import MulticaOS.Lib.Wire
import MulticaOS.LongConnection.Chunks

/-!
The envelope of the long connection, translated from `ws_frame.go`.  A Go string is a sequence of
bytes; an error has its text and the error of `protowire` that it wraps.
-/

namespace MulticaOS.LongConnection

open WireLib hiding Bytes

structure FrameHeader where
  key : Bytes
  value : Bytes
  deriving DecidableEq

structure Frame where
  seqID : UInt64
  logID : UInt64
  service : Int32
  method : Int32
  headers : List FrameHeader
  payloadEncoding : Bytes
  payloadType : Bytes
  payload : Option Bytes
  logIDNew : Bytes
  deriving DecidableEq

def headerSize (header : FrameHeader) : Nat :=
  sizeTag 1 + sizeBytes header.key.length + sizeTag 2 + sizeBytes header.value.length

def marshalHeader (header : FrameHeader) : Bytes :=
  appendTag 5 bytesType ++ appendVarint (headerSize header) ++
    appendTag 1 bytesType ++ appendBytes header.key ++
    appendTag 2 bytesType ++ appendBytes header.value

namespace Frame

def marshal (frame : Frame) : Bytes :=
  appendTag 1 varintType ++ appendVarint frame.seqID.toNat ++
    appendTag 2 varintType ++ appendVarint frame.logID.toNat ++
    appendTag 3 varintType ++ appendVarint frame.service.toUInt32.toNat ++
    appendTag 4 varintType ++ appendVarint frame.method.toUInt32.toNat ++
    frame.headers.flatMap marshalHeader ++
    appendTag 6 bytesType ++ appendBytes frame.payloadEncoding ++
    appendTag 7 bytesType ++ appendBytes frame.payloadType ++
    (match frame.payload with
      | none => []
      | some payload => appendTag 8 bytesType ++ appendBytes payload) ++
    appendTag 9 bytesType ++ appendBytes frame.logIDNew

end Frame

structure FrameError where
  message : String
  cause : Option WireLib.Error
  deriving DecidableEq

section Fields

variable {State : Type}

def varintField (name consume : String) (store : Nat → State) (type : Nat) (rest : Bytes) :
    Except FrameError (State × Bytes) :=
  if type ≠ varintType then .error ⟨name ++ " expects varint, got " ++ toString type, none⟩
  else
    match consumeVarint rest with
    | .error fault => .error ⟨consume, some fault⟩
    | .ok (value, rest) => .ok (store value, rest)

def bytesField (name consume : String) (store : Bytes → Except FrameError State) (type : Nat) (rest : Bytes) :
    Except FrameError (State × Bytes) :=
  if type ≠ bytesType then .error ⟨name ++ " expects bytes, got " ++ toString type, none⟩
  else
    match consumeBytes rest with
    | .error fault => .error ⟨consume, some fault⟩
    | .ok (value, rest) => (store value).map fun next => (next, rest)

def skipField (skip : String) (state : State) (number type : Nat) (rest : Bytes) :
    Except FrameError (State × Bytes) :=
  match consumeFieldValue number type rest with
  | .error fault => .error ⟨skip ++ toString number, some fault⟩
  | .ok rest => .ok (state, rest)

def fieldStep (consume : String) (field : State → Nat → Nat → Bytes → Except FrameError (State × Bytes))
    (state : State) (bytes : Bytes) : Except FrameError (State × Bytes) :=
  match consumeTag bytes with
  | .error fault => .error ⟨consume, some fault⟩
  | .ok (number, type, rest) => field state number type rest

end Fields

def headerField (header : FrameHeader) (number type : Nat) (rest : Bytes) :
    Except FrameError (FrameHeader × Bytes) :=
  match number with
  | 1 => bytesField "ws frame: header.key" "ws frame: header.key" (fun key => .ok { header with key }) type rest
  | 2 =>
      bytesField "ws frame: header.value" "ws frame: header.value" (fun value => .ok { header with value })
        type rest
  | _ => skipField "ws frame: skip header field " header number type rest

def headerStep : FrameHeader → Bytes → Except FrameError (FrameHeader × Bytes) :=
  fieldStep "ws frame: header tag" headerField

def unmarshalHeader (bytes : Bytes) : Except FrameError FrameHeader := decode headerStep ⟨[], []⟩ bytes

def frameField (frame : Frame) (number type : Nat) (rest : Bytes) : Except FrameError (Frame × Bytes) :=
  match number with
  | 1 =>
      varintField "ws frame: field 1" "ws frame: consume seq_id"
        (fun value => { frame with seqID := UInt64.ofNat value }) type rest
  | 2 =>
      varintField "ws frame: field 2" "ws frame: consume log_id"
        (fun value => { frame with logID := UInt64.ofNat value }) type rest
  | 3 =>
      varintField "ws frame: field 3" "ws frame: consume service"
        (fun value => { frame with service := (UInt32.ofNat value).toInt32 }) type rest
  | 4 =>
      varintField "ws frame: field 4" "ws frame: consume method"
        (fun value => { frame with method := (UInt32.ofNat value).toInt32 }) type rest
  | 5 =>
      bytesField "ws frame: field 5" "ws frame: consume header"
        (fun bytes => (unmarshalHeader bytes).map fun header =>
          { frame with headers := frame.headers ++ [header] }) type rest
  | 6 =>
      bytesField "ws frame: field 6" "ws frame: consume payload_encoding"
        (fun payloadEncoding => .ok { frame with payloadEncoding }) type rest
  | 7 =>
      bytesField "ws frame: field 7" "ws frame: consume payload_type"
        (fun payloadType => .ok { frame with payloadType }) type rest
  | 8 =>
      bytesField "ws frame: field 8" "ws frame: consume payload"
        (fun raw => .ok { frame with payload := copyBytes raw }) type rest
  | 9 =>
      bytesField "ws frame: field 9" "ws frame: consume log_id_new"
        (fun logIDNew => .ok { frame with logIDNew }) type rest
  | _ => skipField "ws frame: skip unknown field " frame number type rest

def frameStep : Frame → Bytes → Except FrameError (Frame × Bytes) :=
  fieldStep "ws frame: consume tag" frameField

def emptyFrame : Frame := ⟨0, 0, 0, 0, [], [], [], none, []⟩

def unmarshalFrame (bytes : Bytes) : Except FrameError Frame :=
  if bytes = [] then .error ⟨"ws frame: empty buffer", none⟩ else decode frameStep emptyFrame bytes

/-- The handler of a field reads its value, and goes by nothing behind it. -/
structure Handles {State : Type} (number type : Nat) (handler : Bytes → Except FrameError (State × Bytes)) :
    Prop where
  whole : ∀ {after : Bytes}, consumeFieldValue number type after = .ok [] →
    ∃ outcome : Except FrameError State, ∀ tail, handler (after ++ tail) = outcome.map fun next => (next, tail)
  value : ∀ {after rest : Bytes} {next : State}, handler after = .ok (next, rest) →
    consumeFieldValue number type after = .ok rest

section Handlers

variable {State : Type} {number type : Nat}

theorem handles_varintField (name consume : String) (store : Nat → State) :
    Handles number type (varintField name consume store type) := by
  by_cases expected : type = varintType
  · subst expected
    constructor
    · intro after skipped
      rw [consumeFieldValue_varint] at skipped
      cases read : consumeVarint after with
      | error fault => simp [read, Except.map] at skipped
      | ok found =>
          obtain ⟨value, rest⟩ := found
          simp only [read, Except.map, Except.ok.injEq] at skipped
          subst skipped
          refine ⟨.ok (store value), fun tail => ?_⟩
          simp [varintField, local_consumeVarint.extend read tail, Except.map]
    · intro after rest next handled
      rw [consumeFieldValue_varint]
      cases read : consumeVarint after with
      | error fault => simp [varintField, read] at handled
      | ok found =>
          simp only [varintField, read, ne_eq, not_true_eq_false, if_false, Except.ok.injEq, Prod.mk.injEq] at handled
          simp only [read, Except.map, handled.2]
  · constructor
    · intro after _
      exact ⟨.error ⟨name ++ " expects varint, got " ++ toString type, none⟩, fun tail => if_pos expected⟩
    · intro after rest next handled
      simp [varintField, expected] at handled

theorem handles_bytesField (name consume : String) (store : Bytes → Except FrameError State) :
    Handles number type (bytesField name consume store type) := by
  by_cases expected : type = bytesType
  · subst expected
    constructor
    · intro after skipped
      rw [consumeFieldValue_bytes] at skipped
      cases read : consumeBytes after with
      | error fault => simp [read, Except.map] at skipped
      | ok found =>
          obtain ⟨value, rest⟩ := found
          simp only [read, Except.map, Except.ok.injEq] at skipped
          subst skipped
          refine ⟨store value, fun tail => ?_⟩
          simp [bytesField, local_consumeBytes.extend read tail]
    · intro after rest next handled
      rw [consumeFieldValue_bytes]
      cases read : consumeBytes after with
      | error fault => simp [bytesField, read] at handled
      | ok found =>
          simp only [bytesField, read, ne_eq, not_true_eq_false, if_false] at handled
          cases stored : store found.1 with
          | error fault => simp [stored, Except.map] at handled
          | ok state =>
              simp only [stored, Except.map, Except.ok.injEq, Prod.mk.injEq] at handled
              simp only [read, Except.map, handled.2]
  · constructor
    · intro after _
      exact ⟨.error ⟨name ++ " expects bytes, got " ++ toString type, none⟩, fun tail => if_pos expected⟩
    · intro after rest next handled
      simp [bytesField, expected] at handled

theorem handles_skipField (skip : String) (state : State) :
    Handles number type (skipField skip state number type) := by
  constructor
  · intro after skipped
    refine ⟨.ok state, fun tail => ?_⟩
    rw [skipField, (skips_consumeFieldValue number type).extend skipped tail]
    rfl
  · intro after rest next handled
    rw [skipField] at handled
    cases read : consumeFieldValue number type after with
    | error fault => simp [read] at handled
    | ok left =>
        simp only [read, Except.ok.injEq, Prod.mk.injEq] at handled
        rw [handled.2]

theorem reads_fieldStep (consume : String)
    {field : State → Nat → Nat → Bytes → Except FrameError (State × Bytes)}
    (handles : ∀ state number type, Handles number type (field state number type)) :
    Reads (fieldStep consume field) := by
  constructor
  · rintro state bytes ⟨number, type, after, tag, value⟩
    obtain ⟨outcome, each⟩ := (handles state number type).whole value
    refine ⟨outcome, fun tail => ?_⟩
    rw [fieldStep, consumeTag_extend tag tail]
    exact each tail
  · intro state next bytes rest read
    rw [fieldStep] at read
    cases tag : consumeTag bytes with
    | error fault => simp [tag] at read
    | ok found =>
        obtain ⟨number, type, after⟩ := found
        rw [tag] at read
        exact field_of_consumed tag ((handles state number type).value read)

end Handlers

section Applied

variable {State : Type} {consume : String}
  {field : State → Nat → Nat → Bytes → Except FrameError (State × Bytes)}

theorem apply_varint {number value : Nat} {name fault : String} {store : Nat → State} {state : State}
    (valid : 0 < number ∧ number < 2 ^ 31) (word : value < 2 ^ 64)
    (handler : field state number varintType = varintField name fault store varintType) :
    apply (fieldStep consume field) state (appendTag number varintType ++ appendVarint value) =
      .ok (store value) := by
  have alone := consumeVarint_append word []
  rw [List.append_nil] at alone
  rw [apply, fieldStep, consumeTag_append valid (by decide)]
  dsimp only
  rw [handler, varintField, alone]
  rfl

theorem apply_bytes {number : Nat} {value : Bytes} {name fault : String}
    {store : Bytes → Except FrameError State} {state : State} (valid : 0 < number ∧ number < 2 ^ 31)
    (word : value.length < 2 ^ 64)
    (handler : field state number bytesType = bytesField name fault store bytesType) :
    apply (fieldStep consume field) state (appendTag number bytesType ++ appendBytes value) = store value := by
  have alone := consumeBytes_append word []
  rw [List.append_nil] at alone
  rw [apply, fieldStep, consumeTag_append valid (by decide)]
  dsimp only
  rw [handler, bytesField, alone]
  dsimp only
  cases store value <;> rfl

end Applied

theorem reads_headerStep : Reads headerStep := by
  refine reads_fieldStep _ fun header number type => ?_
  unfold headerField
  split
  · exact handles_bytesField _ _ _
  · exact handles_bytesField _ _ _
  · exact handles_skipField _ _

theorem reads_frameStep : Reads frameStep := by
  refine reads_fieldStep _ fun frame number type => ?_
  unfold frameField
  split
  · exact handles_varintField _ _ _
  · exact handles_varintField _ _ _
  · exact handles_varintField _ _ _
  · exact handles_varintField _ _ _
  · exact handles_bytesField _ _ _
  · exact handles_bytesField _ _ _
  · exact handles_bytesField _ _ _
  · exact handles_bytesField _ _ _
  · exact handles_bytesField _ _ _
  · exact handles_skipField _ _

def headerFields (header : FrameHeader) : List Bytes :=
  [appendTag 1 bytesType ++ appendBytes header.key, appendTag 2 bytesType ++ appendBytes header.value]

def Frame.fields (frame : Frame) : List Bytes :=
  [appendTag 1 varintType ++ appendVarint frame.seqID.toNat,
    appendTag 2 varintType ++ appendVarint frame.logID.toNat,
    appendTag 3 varintType ++ appendVarint frame.service.toUInt32.toNat,
    appendTag 4 varintType ++ appendVarint frame.method.toUInt32.toNat] ++
  frame.headers.map (fun header => appendTag 5 bytesType ++ appendBytes (headerFields header).flatten) ++
  [appendTag 6 bytesType ++ appendBytes frame.payloadEncoding,
    appendTag 7 bytesType ++ appendBytes frame.payloadType] ++
  (frame.payload.map fun payload => appendTag 8 bytesType ++ appendBytes payload).toList ++
  [appendTag 9 bytesType ++ appendBytes frame.logIDNew]

def Frame.Fits (frame : Frame) : Prop := frame.marshal.length < 2 ^ 63

theorem length_appendTag {number type : Nat} (small : encodeTag number type < 128) :
    (appendTag number type).length = 1 := by
  rw [appendTag, appendVarint_small small]
  rfl

theorem headerSize_eq {header : FrameHeader} (key : header.key.length < 2 ^ 64)
    (value : header.value.length < 2 ^ 64) : headerSize header = (headerFields header).flatten.length := by
  rw [headerSize, sizeTag, sizeTag, sizeBytes, sizeBytes, sizeVarint_eq key, sizeVarint_eq value,
    sizeVarint_eq (by decide), sizeVarint_eq (by decide)]
  simp only [headerFields, appendBytes, List.flatten_cons, List.flatten_nil, List.length_append, List.length_nil,
    length_appendTag (show encodeTag 1 bytesType < 128 by decide),
    length_appendTag (show encodeTag 2 bytesType < 128 by decide),
    appendVarint_small (show encodeTag 1 0 < 128 by decide),
    appendVarint_small (show encodeTag 2 0 < 128 by decide), List.length_singleton]
  omega

structure Bounded (frame : Frame) : Prop where
  headers : ∀ header ∈ frame.headers, header.key.length < 2 ^ 64 ∧ header.value.length < 2 ^ 64 ∧
    (headerFields header).flatten.length < 2 ^ 64
  payloadEncoding : frame.payloadEncoding.length < 2 ^ 64
  payloadType : frame.payloadType.length < 2 ^ 64
  payload : ∀ payload, frame.payload = some payload → payload.length < 2 ^ 64
  logIDNew : frame.logIDNew.length < 2 ^ 64

theorem length_headerFields (header : FrameHeader) :
    header.key.length ≤ (headerFields header).flatten.length ∧
      header.value.length ≤ (headerFields header).flatten.length ∧
      (headerFields header).flatten.length ≤ (marshalHeader header).length := by
  simp only [headerFields, marshalHeader, appendBytes, List.flatten_cons, List.flatten_nil, List.length_append,
    List.length_nil]
  omega

theorem length_marshalHeader_le {headers : List FrameHeader} {header : FrameHeader} (member : header ∈ headers) :
    (marshalHeader header).length ≤ (headers.flatMap marshalHeader).length := by
  obtain ⟨before, after, rfl⟩ := List.append_of_mem member
  rw [List.flatMap_append, List.flatMap_cons, List.length_append, List.length_append]
  omega

theorem Frame.Fits.bounded {frame : Frame} (fits : frame.Fits) : Bounded frame := by
  simp only [Frame.Fits, Frame.marshal, appendBytes, List.length_append] at fits
  constructor
  · intro header member
    obtain ⟨key, value, fields⟩ := length_headerFields header
    have inside := length_marshalHeader_le member
    exact ⟨by omega, by omega, by omega⟩
  · omega
  · omega
  · intro payload held
    rw [held] at fits
    simp only [List.length_append] at fits
    omega
  · omega

theorem marshalHeader_eq {header : FrameHeader} (key : header.key.length < 2 ^ 64)
    (value : header.value.length < 2 ^ 64) :
    marshalHeader header = appendTag 5 bytesType ++ appendBytes (headerFields header).flatten := by
  rw [appendBytes, ← headerSize_eq key value, marshalHeader]
  simp [headerFields]

theorem Frame.marshal_eq {frame : Frame} (bounded : Bounded frame) : frame.marshal = frame.fields.flatten := by
  have headers : frame.headers.flatMap marshalHeader =
      (frame.headers.map fun header =>
        appendTag 5 bytesType ++ appendBytes (headerFields header).flatten).flatten := by
    rw [← List.flatMap_def]
    refine List.flatMap_congr fun header member => ?_
    obtain ⟨key, value, _⟩ := bounded.headers header member
    exact marshalHeader_eq key value
  rw [Frame.marshal, Frame.fields, headers]
  cases frame.payload <;> simp

theorem fields_headerFields {header : FrameHeader} (key : header.key.length < 2 ^ 64)
    (value : header.value.length < 2 ^ 64) : ∀ field ∈ headerFields header, Field field := by
  intro field member
  simp only [headerFields, List.mem_cons, List.not_mem_nil, or_false] at member
  rcases member with rfl | rfl
  · exact field_bytes (by decide) key
  · exact field_bytes (by decide) value

theorem Frame.fields_whole {frame : Frame} (bounded : Bounded frame) : ∀ field ∈ frame.fields, Field field := by
  intro field member
  simp only [Frame.fields, List.mem_append, List.mem_cons, List.mem_map, List.not_mem_nil, or_false,
    Option.mem_toList, Option.map_eq_some_iff] at member
  rcases member with ((((rfl | rfl | rfl | rfl) | ⟨header, inHeaders, rfl⟩) | rfl | rfl) | ⟨payload, held, rfl⟩) | rfl
  · exact field_varint (by decide) frame.seqID.toNat_lt
  · exact field_varint (by decide) frame.logID.toNat_lt
  · exact field_varint (by decide) (by have := frame.service.toUInt32.toNat_lt; omega)
  · exact field_varint (by decide) (by have := frame.method.toUInt32.toNat_lt; omega)
  · exact field_bytes (by decide) (bounded.headers header inHeaders).2.2
  · exact field_bytes (by decide) bounded.payloadEncoding
  · exact field_bytes (by decide) bounded.payloadType
  · exact field_bytes (by decide) (bounded.payload payload held)
  · exact field_bytes (by decide) bounded.logIDNew

theorem unmarshalHeader_marshal {header : FrameHeader} (key : header.key.length < 2 ^ 64)
    (value : header.value.length < 2 ^ 64) : unmarshalHeader (headerFields header).flatten = .ok header := by
  rw [unmarshalHeader, reads_headerStep.decode_flatten (fields_headerFields key value)]
  have readKey : ∀ state : FrameHeader, apply headerStep state (appendTag 1 bytesType ++ appendBytes header.key) =
      .ok { state with key := header.key } := by
    intro state
    rw [headerStep, apply_bytes (by decide) key rfl]
  have readValue : ∀ state : FrameHeader,
      apply headerStep state (appendTag 2 bytesType ++ appendBytes header.value) =
      .ok { state with value := header.value } := by
    intro state
    rw [headerStep, apply_bytes (by decide) value rfl]
  simp only [headerFields, List.foldlM_cons, List.foldlM_nil, readKey, readValue]
  rfl

theorem read_headers {headers : List FrameHeader}
    (bounded : ∀ header ∈ headers, header.key.length < 2 ^ 64 ∧ header.value.length < 2 ^ 64 ∧
      (headerFields header).flatten.length < 2 ^ 64) : ∀ state : Frame,
    (headers.map fun header => appendTag 5 bytesType ++ appendBytes (headerFields header).flatten).foldlM
        (apply frameStep) state = .ok { state with headers := state.headers ++ headers } := by
  induction headers with
  | nil => exact fun state => by simp; rfl
  | cons header rest ih =>
      intro state
      obtain ⟨key, value, length⟩ := bounded header List.mem_cons_self
      have later := ih fun other member => bounded other (List.mem_cons_of_mem _ member)
      have here : apply frameStep state (appendTag 5 bytesType ++ appendBytes (headerFields header).flatten) =
          .ok { state with headers := state.headers ++ [header] } := by
        rw [frameStep, apply_bytes (by decide) length rfl, unmarshalHeader_marshal key value]
        rfl
      rw [List.map_cons, List.foldlM_cons, here]
      refine (later _).trans ?_
      simp

def Frame.identified (frame : Frame) : Frame := { frame with payload := frame.payload.bind copyBytes }

theorem read_payload {payload : Option Bytes} (bounded : ∀ bytes, payload = some bytes → bytes.length < 2 ^ 64)
    (state : Frame) (absent : state.payload = none) :
    (payload.map fun bytes => appendTag 8 bytesType ++ appendBytes bytes).toList.foldlM (apply frameStep) state =
      .ok { state with payload := payload.bind copyBytes } := by
  cases payload with
  | none =>
      obtain ⟨_, _, _, _, _, _, _, payload, _⟩ := state
      cases absent
      rfl
  | some bytes =>
      rw [Option.map_some, Option.toList_some, List.foldlM_cons, frameStep,
        apply_bytes (by decide) (bounded bytes rfl) rfl]
      rfl

theorem unmarshalFrame_marshal {frame : Frame} (fits : frame.Fits) :
    unmarshalFrame frame.marshal = .ok frame.identified := by
  have bounded := fits.bounded
  have whole := Frame.fields_whole bounded
  have some : frame.fields.flatten ≠ [] := by
    intro none
    exact (whole _ (by simp [Frame.fields])).ne_nil (List.flatten_eq_nil_iff.mp none _ List.mem_cons_self)
  have service : frame.service.toUInt32.toNat < 2 ^ 64 := by
    have := frame.service.toUInt32.toNat_lt
    omega
  have method : frame.method.toUInt32.toNat < 2 ^ 64 := by
    have := frame.method.toUInt32.toNat_lt
    omega
  rw [unmarshalFrame, Frame.marshal_eq bounded, if_neg some, reads_frameStep.decode_flatten whole, Frame.fields,
    List.foldlM_append, List.foldlM_append, List.foldlM_append, List.foldlM_append]
  have readSeq : ∀ state : Frame, apply frameStep state (appendTag 1 varintType ++ appendVarint frame.seqID.toNat) =
      .ok { state with seqID := frame.seqID } := fun state => by
    rw [frameStep, apply_varint (by decide) frame.seqID.toNat_lt rfl, UInt64.ofNat_toNat]
  have readLog : ∀ state : Frame, apply frameStep state (appendTag 2 varintType ++ appendVarint frame.logID.toNat) =
      .ok { state with logID := frame.logID } := fun state => by
    rw [frameStep, apply_varint (by decide) frame.logID.toNat_lt rfl, UInt64.ofNat_toNat]
  have readService : ∀ state : Frame,
      apply frameStep state (appendTag 3 varintType ++ appendVarint frame.service.toUInt32.toNat) =
      .ok { state with service := frame.service } := fun state => by
    rw [frameStep, apply_varint (by decide) service rfl, UInt32.ofNat_toNat, Int32.toInt32_toUInt32]
  have readMethod : ∀ state : Frame,
      apply frameStep state (appendTag 4 varintType ++ appendVarint frame.method.toUInt32.toNat) =
      .ok { state with method := frame.method } := fun state => by
    rw [frameStep, apply_varint (by decide) method rfl, UInt32.ofNat_toNat, Int32.toInt32_toUInt32]
  have readEncoding : ∀ state : Frame,
      apply frameStep state (appendTag 6 bytesType ++ appendBytes frame.payloadEncoding) =
      .ok { state with payloadEncoding := frame.payloadEncoding } := fun state => by
    rw [frameStep, apply_bytes (by decide) bounded.payloadEncoding rfl]
  have readType : ∀ state : Frame,
      apply frameStep state (appendTag 7 bytesType ++ appendBytes frame.payloadType) =
      .ok { state with payloadType := frame.payloadType } := fun state => by
    rw [frameStep, apply_bytes (by decide) bounded.payloadType rfl]
  have readLogIDNew : ∀ state : Frame,
      apply frameStep state (appendTag 9 bytesType ++ appendBytes frame.logIDNew) =
      .ok { state with logIDNew := frame.logIDNew } := fun state => by
    rw [frameStep, apply_bytes (by decide) bounded.logIDNew rfl]
  simp only [List.foldlM_cons, List.foldlM_nil, readSeq, readLog, readService, readMethod, readEncoding, readType,
    readLogIDNew, bind, Except.bind, pure, Except.pure]
  rw [read_headers bounded.headers]
  dsimp only
  rw [read_payload bounded.payload _ rfl]
  rfl

theorem copyBytes_again (bytes : Bytes) : (copyBytes bytes).bind copyBytes = copyBytes bytes := by
  by_cases none : bytes = [] <;> simp [copyBytes, none]

section Stored

variable {State : Type} {next : State} {type : Nat} {after rest : Bytes}

theorem varintField_stored {name consume : String} {store : Nat → State}
    (handled : varintField name consume store type after = .ok (next, rest)) : ∃ value, next = store value := by
  rw [varintField] at handled
  split at handled
  · cases handled
  · split at handled
    · cases handled
    · cases handled
      exact ⟨_, rfl⟩

theorem bytesField_stored {name consume : String} {store : Bytes → Except FrameError State}
    (handled : bytesField name consume store type after = .ok (next, rest)) :
    ∃ value, store value = .ok next := by
  rw [bytesField] at handled
  split at handled
  · cases handled
  · split at handled
    · cases handled
    · rename_i value left _
      cases stored : store value with
      | error fault => simp [stored, Except.map] at handled
      | ok state =>
          simp only [stored, Except.map, Except.ok.injEq, Prod.mk.injEq] at handled
          exact ⟨value, by rw [stored, handled.1]⟩

theorem skipField_stored {skip : String} {state : State} {number : Nat}
    (handled : skipField skip state number type after = .ok (next, rest)) : next = state := by
  rw [skipField] at handled
  split at handled
  · cases handled
  · cases handled
    rfl

end Stored

theorem frameStep_identified {frame next : Frame} {bytes rest : Bytes}
    (read : frameStep frame bytes = .ok (next, rest)) (before : frame.identified = frame) :
    next.identified = next := by
  have kept : frame.payload.bind copyBytes = frame.payload := congrArg Frame.payload before
  have same : ∀ {other : Frame}, other.payload = frame.payload → other.identified = other := by
    intro other equal
    simp only [Frame.identified, equal, kept]
    rw [← equal]
  rw [frameStep, fieldStep] at read
  split at read
  · cases read
  · rename_i number type after tag
    unfold frameField at read
    split at read
    · obtain ⟨value, rfl⟩ := varintField_stored read
      exact same rfl
    · obtain ⟨value, rfl⟩ := varintField_stored read
      exact same rfl
    · obtain ⟨value, rfl⟩ := varintField_stored read
      exact same rfl
    · obtain ⟨value, rfl⟩ := varintField_stored read
      exact same rfl
    · obtain ⟨value, stored⟩ := bytesField_stored read
      cases header : unmarshalHeader value with
      | error fault => simp [header, Except.map] at stored
      | ok decoded =>
          simp only [header, Except.map, Except.ok.injEq] at stored
          subst stored
          exact same rfl
    · obtain ⟨value, stored⟩ := bytesField_stored read
      cases stored
      exact same rfl
    · obtain ⟨value, stored⟩ := bytesField_stored read
      cases stored
      exact same rfl
    · obtain ⟨value, stored⟩ := bytesField_stored read
      cases stored
      simp [Frame.identified, copyBytes_again]
    · obtain ⟨value, stored⟩ := bytesField_stored read
      cases stored
      exact same rfl
    · rw [skipField_stored read]
      exact before

theorem unmarshalFrame_identified {bytes : Bytes} {frame : Frame} (accepted : unmarshalFrame bytes = .ok frame) :
    frame.identified = frame := by
  rw [unmarshalFrame] at accepted
  split at accepted
  · cases accepted
  · exact @decodeFrom_invariant _ _ frameStep (fun frame : Frame => frame.identified = frame)
      frameStep_identified _ _ _ _ accepted rfl

def Unknown (bytes : Bytes) : Prop :=
  ∃ number type rest, consumeTag bytes = .ok (number, type, rest) ∧
    consumeFieldValue number type rest = .ok [] ∧ 9 < number

theorem Unknown.field {bytes : Bytes} (unknown : Unknown bytes) : Field bytes := by
  obtain ⟨number, type, rest, tag, value, _⟩ := unknown
  exact ⟨number, type, rest, tag, value⟩

theorem Unknown.apply {bytes : Bytes} (unknown : Unknown bytes) (frame : Frame) :
    WireLib.apply frameStep frame bytes = .ok frame := by
  obtain ⟨number, type, rest, tag, value, large⟩ := unknown
  have skipped : frameField frame number type rest =
      skipField "ws frame: skip unknown field " frame number type rest := by
    unfold frameField
    split
    all_goals (first | rfl | omega)
  rw [WireLib.apply, frameStep, fieldStep, tag]
  dsimp only
  rw [skipped, skipField, value]
  rfl

theorem unmarshalFrame_fields {bytes : Bytes} {frame : Frame} (accepted : unmarshalFrame bytes = .ok frame) :
    ∃ fields : List Bytes, (∀ field ∈ fields, Field field) ∧ bytes = fields.flatten := by
  rw [unmarshalFrame] at accepted
  split at accepted
  · cases accepted
  · exact reads_frameStep.fields_of_decode _ (Nat.le_refl _) accepted

theorem unmarshalFrame_insert {before after : List Bytes} {unknown : Bytes}
    (wholeBefore : ∀ field ∈ before, Field field) (wholeAfter : ∀ field ∈ after, Field field)
    (some : before ++ after ≠ []) (skipped : Unknown unknown) :
    unmarshalFrame (before ++ unknown :: after).flatten = unmarshalFrame (before ++ after).flatten := by
  have nonempty : ∀ {fields : List Bytes}, (∀ field ∈ fields, Field field) → fields ≠ [] → fields.flatten ≠ [] := by
    intro fields whole some none
    obtain ⟨field, member⟩ := List.exists_mem_of_ne_nil _ some
    exact (whole field member).ne_nil (List.flatten_eq_nil_iff.mp none field member)
  have whole : ∀ field ∈ before ++ after, Field field := fun field member =>
    (List.mem_append.mp member).elim (wholeBefore field) (wholeAfter field)
  have wholeInserted : ∀ field ∈ before ++ unknown :: after, Field field := by
    intro field member
    rcases List.mem_append.mp member with early | late
    · exact wholeBefore field early
    · rcases List.mem_cons.mp late with rfl | late
      · exact skipped.field
      · exact wholeAfter field late
  rw [unmarshalFrame, unmarshalFrame, if_neg (nonempty whole some), if_neg (nonempty wholeInserted (by simp)),
    reads_frameStep.decode_insert wholeBefore wholeAfter skipped.field skipped.apply]

theorem unmarshalFrame_cut {before : List Bytes} {part missing : Bytes}
    (whole : ∀ field ∈ before, Field field) (field : Field (part ++ missing)) (some : part ≠ [])
    (cut : missing ≠ []) (frame : Frame) : unmarshalFrame (before.flatten ++ part) ≠ .ok frame := by
  intro accepted
  rw [unmarshalFrame, if_neg (fun none => some (List.append_eq_nil_iff.mp none).2),
    reads_frameStep.decode_fields whole] at accepted
  cases early : before.foldlM (apply frameStep) emptyFrame with
  | error fault =>
      rw [early] at accepted
      cases accepted
  | ok state =>
      rw [early] at accepted
      exact reads_frameStep.decode_cut field some cut state frame accepted

theorem frame_codec :
    (∀ frame : Frame, frame.Fits → unmarshalFrame frame.marshal = .ok frame.identified) ∧
    (∀ (bytes : Bytes) (frame : Frame), unmarshalFrame bytes = .ok frame → frame.Fits →
      unmarshalFrame frame.marshal = .ok frame) ∧
    (∀ frame : Frame, frame.Fits →
      ∃ fields : List Bytes, (∀ field ∈ fields, Field field) ∧ frame.marshal = fields.flatten) ∧
    (∀ (bytes : Bytes) (frame : Frame), unmarshalFrame bytes = .ok frame →
      ∃ fields : List Bytes, (∀ field ∈ fields, Field field) ∧ bytes = fields.flatten) ∧
    (∀ (before after : List Bytes) (unknown : Bytes), (∀ field ∈ before, Field field) →
      (∀ field ∈ after, Field field) → before ++ after ≠ [] → Unknown unknown →
      unmarshalFrame (before ++ unknown :: after).flatten = unmarshalFrame (before ++ after).flatten) ∧
    ∀ (before : List Bytes) (part missing : Bytes), (∀ field ∈ before, Field field) → Field (part ++ missing) →
      part ≠ [] → missing ≠ [] → ∀ frame, unmarshalFrame (before.flatten ++ part) ≠ .ok frame := by
  refine ⟨fun frame => unmarshalFrame_marshal, fun bytes frame accepted fits => ?_,
    fun frame fits => ⟨frame.fields, Frame.fields_whole fits.bounded, Frame.marshal_eq fits.bounded⟩,
    fun bytes frame => unmarshalFrame_fields, fun before after unknown => unmarshalFrame_insert,
    fun before part missing => unmarshalFrame_cut⟩
  rw [unmarshalFrame_marshal fits, unmarshalFrame_identified accepted]

def pingFrame : Frame :=
  ⟨1, 0, -1, 0, [⟨[116, 121, 112, 101], [112, 105, 110, 103]⟩], [], [], some [], []⟩

theorem frame_codec_ping :
    unmarshalFrame pingFrame.marshal = .ok { pingFrame with payload := none } ∧
      unmarshalFrame { pingFrame with payload := none }.marshal = .ok { pingFrame with payload := none } :=
  have decoded := frame_codec.1 pingFrame (by decide +kernel : pingFrame.marshal.length < 2 ^ 63)
  ⟨decoded, frame_codec.2.1 _ _ decoded (by decide +kernel : pingFrame.identified.marshal.length < 2 ^ 63)⟩

end MulticaOS.LongConnection
