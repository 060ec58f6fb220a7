import RLib.Control.Fetch
import Mathlib.Order.Interval.Finset.Nat

namespace RLib

open Bytes Bootstrap Proto Qps ConnectManager

/-- A `memcpy` of `name` to the field of an `RCReq` that starts at `field`. -/
structure NameCopy where
  field : Nat
  name : ByteBuffer

namespace NameCopy

def Inside (c : NameCopy) : Prop :=
  Finset.Ico c.field (c.field + c.name.length) ⊆ Finset.Ico c.field (c.field + (kMaxQPNameLen + 1))

theorem inside_iff (c : NameCopy) : c.Inside ↔ c.name.length ≤ kMaxQPNameLen + 1 := by
  constructor
  · intro inside
    by_contra long
    have last : c.field + (kMaxQPNameLen + 1) ∈ Finset.Ico c.field (c.field + c.name.length) := by
      rw [Finset.mem_Ico]
      omega
    have outside := Finset.mem_Ico.mp (inside last)
    omega
  · exact fun fits => Finset.Ico_subset_Ico le_rfl (Nat.add_le_add_left fits c.field)

end NameCopy

section Filling

variable (qpName channelName : ByteBuffer)

def nameCopies : List NameCopy := [⟨0, qpName⟩, ⟨kMaxQPNameLen + 1, channelName⟩]

def ccRcMsgCopies : List NameCopy := if kMaxQPNameLen < qpName.length then [] else nameCopies qpName channelName

/-- The assignments of `cc_rc_msg` to the fields of its request, which stands behind the copies in `req`. -/
def assignMsgFields (msgSz : U32) (nicId : U64) (config : QPConfig) (attr : QPAttr) (req : ByteBuffer) :
    Except Exit ByteBuffer := do
  let req ← write req 128 (dump (Codec.word 1) 1)
  let req ← write req 129 (dump (Codec.word 1) 1)
  let req ← write req 130 (dump (Codec.word 8) nicId)
  let req ← write req 138 (dump QPConfig.format config)
  let req ← write req 178 (dump QPAttr.format attr)
  write req 238 (dump (Codec.word 8) (msgSz.setWidth 64))

/-- The request of `cc_rc_msg` as it is filled in: zeroed, the names copied, the other fields assigned. -/
def fillMsgRequest (msgSz : U32) (nicId : U64) (config : QPConfig) (attr : QPAttr) : Except Exit ByteBuffer := do
  let req ← (nameCopies qpName channelName).foldlM (fun req c => write req c.field c.name)
    (dump RCReq.format { name := .replicate _ 0 })
  assignMsgFields msgSz nicId config attr req

end Filling

section Parts

theorem write_flatten {parts : List ByteBuffer} {i off : Nat} {w : ByteBuffer} (there : i < parts.length)
    (place : (parts.take i).flatten.length = off) (same : w.length = (parts[i]).length) :
    write parts.flatten off w = .ok (parts.set i w).flatten := by
  have split : parts = parts.take i ++ parts[i] :: parts.drop (i + 1) := by
    rw [List.cons_getElem_drop_succ, List.take_append_drop]
  rw [List.set_eq_take_append_cons_drop, if_pos there]
  conv_lhs => rw [split]
  rw [List.flatten_append, List.flatten_cons, List.flatten_append, List.flatten_cons, ← place]
  exact write_middle _ _ _ w same

theorem store_front_take {m w : ByteBuffer} {n : Nat} (inside : n ≤ m.length) :
    (store m 0 w).take n = overlay w (m.take n) := by
  rw [store, List.take_zero, List.nil_append, Nat.zero_add, List.take_append, overlay, List.length_take,
    Nat.min_eq_left inside, List.drop_take]

namespace Proto.RCReq

def parts (r : RCReq) : List ByteBuffer :=
  [r.name.toList, r.nameRecv.toList, dump (Codec.word 1) r.whetherCreate, dump (Codec.word 1) r.whetherRecv,
    dump (Codec.word 8) r.nicId, dump QPConfig.format r.config, dump QPAttr.format r.attr,
    dump (Codec.word 8) r.maxRecvSz]

def sizes : List Nat := [64, 64, 1, 1, 8, 40, 60, 8]

theorem parts_flatten (r : RCReq) : r.parts.flatten = dump format r := by
  simp only [parts, List.flatten_cons, List.flatten_nil, List.append_nil]
  rfl

theorem parts_sizes (r : RCReq) : r.parts.map List.length = sizes := by
  simp only [parts, List.map_cons, List.Vector.toList_length, dump_length]
  rfl

theorem write_field {r r' : RCReq} {i off : Nat} {w : ByteBuffer} (there : i < 8) (place : (sizes.take i).sum = off)
    (same : w.length = (r.parts.get ⟨i, there⟩).length) (set : r.parts.set i w = r'.parts) :
    write (dump format r) off w = .ok (dump format r') := by
  have before : (r.parts.take i).flatten.length = off := by
    rw [List.length_flatten, List.map_take, parts_sizes, place]
  rw [← parts_flatten, ← parts_flatten, ← set]
  exact write_flatten there before same

end Proto.RCReq

end Parts

section Filled

theorem Proto.RCReq.dump_take (r : RCReq) : (dump format r).take (kMaxQPNameLen + 1) = r.name.toList :=
  List.take_left' r.name.toList_length

theorem Proto.RCReq.dump_drop_take (r : RCReq) :
    ((dump format r).drop (kMaxQPNameLen + 1)).take (kMaxQPNameLen + 1) = r.nameRecv.toList := by
  have behind : (dump format r).drop (kMaxQPNameLen + 1) = _ := List.drop_left' r.name.toList_length
  rw [behind]
  exact List.take_left' r.nameRecv.toList_length

variable {qpName channelName : ByteBuffer}

theorem name_copied (short : qpName.length ≤ kMaxQPNameLen) (r : RCReq) (zero : r.name = .replicate _ 0) :
    write (dump RCReq.format r) 0 qpName = .ok (dump RCReq.format { r with name := nameField qpName }) := by
  have fits : qpName.length ≤ kMaxQPNameLen + 1 := Nat.le_succ_of_le short
  have whole : (dump RCReq.format r).length = 246 := dump_length _ _
  have max : kMaxQPNameLen = 63 := rfl
  have front := store_front_take (m := dump RCReq.format r) (w := qpName) (n := kMaxQPNameLen + 1) (by omega)
  have behind := drop_store (dump RCReq.format r) 0 qpName (by omega) (k := kMaxQPNameLen + 1) (by omega)
  rw [write, if_pos (by omega), ← List.take_append_drop (kMaxQPNameLen + 1) (store _ 0 qpName), front, behind,
    RCReq.dump_take, zero]
  congr 2
  exact List.drop_left' r.name.toList_length

theorem nameRecv_copied (r : RCReq) (zero : r.nameRecv = .replicate _ 0)
    (room : kMaxQPNameLen + 1 + channelName.length ≤ RCReq.format.size) :
    ∃ r', write (dump RCReq.format r) (kMaxQPNameLen + 1) channelName = .ok (dump RCReq.format r') ∧
      r'.name = r.name ∧ r'.nameRecv = nameField channelName := by
  have whole : (dump RCReq.format r).length = RCReq.format.size := dump_length _ _
  have size : RCReq.format.size = 246 := rfl
  have max : kMaxQPNameLen = 63 := rfl
  generalize memory : store (dump RCReq.format r) (kMaxQPNameLen + 1) channelName = mem
  have length : mem.length = RCReq.format.size := by
    rw [← memory, store_length _ _ _ (by omega), whole]
  have dumped : dump RCReq.format (RCReq.format.get mem) = mem := by
    rw [dump, RCReq.format.put_get mem (by omega), List.take_of_length_le (by omega)]
  refine ⟨RCReq.format.get mem, ?_, ?_, ?_⟩
  · rw [write, if_pos (by omega), memory, dumped]
  · apply Subtype.ext
    change (RCReq.format.get mem).name.toList = r.name.toList
    rw [← RCReq.dump_take, ← RCReq.dump_take, dumped, ← memory]
    have kept : slice (store (dump RCReq.format r) (kMaxQPNameLen + 1) channelName) 0 (kMaxQPNameLen + 1) =
        slice (dump RCReq.format r) 0 (kMaxQPNameLen + 1) :=
      slice_store_apart _ _ _ (by omega) (.inl (by omega))
    simpa only [slice, List.drop_zero] using kept
  · apply Subtype.ext
    change (RCReq.format.get mem).nameRecv.toList = overlay channelName (List.replicate (kMaxQPNameLen + 1) 0)
    have moved : mem.drop (kMaxQPNameLen + 1) =
        store ((dump RCReq.format r).drop (kMaxQPNameLen + 1)) 0 channelName := by
      rw [← memory, store, store, List.append_assoc, List.drop_left' (by rw [List.length_take]; omega),
        List.take_zero, List.nil_append, Nat.zero_add, List.drop_drop]
    rw [← RCReq.dump_drop_take, dumped, moved, store_front_take (by rw [List.length_drop]; omega),
      RCReq.dump_drop_take, zero]
    rfl

theorem assignMsgFields_eq (msgSz : U32) (nicId : U64) (config : QPConfig) (attr : QPAttr) (r : RCReq) :
    assignMsgFields msgSz nicId config attr (dump RCReq.format r) =
      .ok (dump RCReq.format
        ⟨r.name, r.nameRecv, 1, 1, nicId, config, attr, msgSz.setWidth 64⟩) := by
  let r₁ := { r with whetherCreate := 1 }
  let r₂ := { r₁ with whetherRecv := 1 }
  let r₃ := { r₂ with nicId := nicId }
  let r₄ := { r₃ with config := config }
  let r₅ := { r₄ with attr := attr }
  let r₆ := { r₅ with maxRecvSz := msgSz.setWidth 64 }
  have create : write _ 128 (dump (Codec.word 1) 1) = .ok (dump RCReq.format r₁) :=
    RCReq.write_field (r := r) (i := 2) (by decide) rfl rfl rfl
  have recv : write _ 129 (dump (Codec.word 1) 1) = .ok (dump RCReq.format r₂) :=
    RCReq.write_field (r := r₁) (i := 3) (by decide) rfl rfl rfl
  have nic : write _ 130 (dump (Codec.word 8) nicId) = .ok (dump RCReq.format r₃) :=
    RCReq.write_field (r := r₂) (i := 4) (by decide) rfl rfl rfl
  have configured : write _ 138 (dump QPConfig.format config) = .ok (dump RCReq.format r₄) :=
    RCReq.write_field (r := r₃) (i := 5) (by decide) rfl rfl rfl
  have attributed : write _ 178 (dump QPAttr.format attr) = .ok (dump RCReq.format r₅) :=
    RCReq.write_field (r := r₄) (i := 6) (by decide) rfl rfl rfl
  have sized : write _ 238 (dump (Codec.word 8) (msgSz.setWidth 64)) = .ok (dump RCReq.format r₆) :=
    RCReq.write_field (r := r₅) (i := 7) (by decide) rfl rfl rfl
  simp only [assignMsgFields, create, recv, nic, configured, attributed, sized, Bind.bind, Except.bind]
  rfl

/-- What of the channel name is copied behind its field is overwritten by the assignments. -/
theorem fillMsgRequest_eq (short : qpName.length ≤ kMaxQPNameLen) (msgSz : U32) (nicId : U64) (config : QPConfig)
    (attr : QPAttr) :
    fillMsgRequest qpName channelName msgSz nicId config attr =
      if RCReq.format.size < kMaxQPNameLen + 1 + channelName.length then .error .overread
      else .ok (dump RCReq.format { msgRequest qpName channelName msgSz nicId config with attr := attr }) := by
  have named := name_copied short { name := .replicate _ 0 } rfl
  unfold fillMsgRequest nameCopies
  simp only [List.foldlM_cons, List.foldlM_nil, named, Bind.bind, Except.bind, Pure.pure, Except.pure]
  by_cases beyond : RCReq.format.size < kMaxQPNameLen + 1 + channelName.length
  · have left : write (dump RCReq.format { name := nameField qpName }) (kMaxQPNameLen + 1) channelName =
        .error .overread := by
      rw [write, if_neg (by rw [dump_length]; omega)]
    rw [if_pos beyond, left]
  · obtain ⟨r, copied, name, nameRecv⟩ := nameRecv_copied { name := nameField qpName } rfl (Nat.not_lt.mp beyond)
    rw [if_neg beyond, copied]
    simp only [assignMsgFields_eq, name, nameRecv]
    rfl

end Filled

section Sending

/-- The network `net`, with a list of what is handed to it. -/
def recorded {ω : Type} (net : Network ω) : Network (ω × List ByteBuffer) := fun d peer =>
  let (sent, arrivals, rest) := net d peer.1
  (sent, arrivals, (rest, d :: peer.2))

variable {ω α : Type} (growth : StringGrowth) (net : Network ω)

theorem ConnectManager.receiveReply_peer (cm : ConnectManager ω) : cm.receiveReply.2.peer = cm.peer := by
  unfold receiveReply
  split
  · rfl
  · rfl

theorem ConnectManager.exchange_peer (id : U8) (parameter : ByteBuffer) (refused : ByteBuffer → α)
    (replied : Result ByteBuffer → α) (cm : ConnectManager ω) :
    (cm.exchange growth net id parameter refused replied).2.peer = (cm.call growth net id parameter).2.peer := by
  unfold exchange
  rcases cm.call growth net id parameter with ⟨e | res, after⟩
  · rfl
  · simp only
    split
    · rfl
    · have kept := after.receiveReply_peer
      rcases received : after.receiveReply with ⟨e | resReply, last⟩
      · rw [received] at kept
        exact kept
      · rw [received] at kept
        exact kept

theorem ConnectManager.requestConnect_peer (id : U8) (req : RCReq) (loc : LocalEnd) (cm : ConnectManager ω)
    {attr : QPAttr} (known : loc.rc.myAttr = .ok attr) :
    (requestConnect growth net id req loc cm).2.peer =
      (cm.call growth net id (dump RCReq.format { req with attr := attr })).2.peer := by
  rw [requestConnect, known]
  simp only
  have kept := cm.exchange_peer growth net id (dump RCReq.format { req with attr := attr })
    (fun desc => ((.ok (errCase desc), loc) : Except Exit (Result (ByteBuffer × U64)) × LocalEnd))
    (fun resReply => connectReplied resReply loc)
  split
  · rename_i same
    rw [same] at kept
    exact kept
  · rename_i same
    rw [same] at kept
    exact kept

variable (qpName channelName : ByteBuffer) (msgSz : U32) (nicId : U64) (config : QPConfig) (loc : LocalEnd)

/-- What `msg_rc_handler` reads in a request: both names, and the other fields as they were passed in. -/
structure MsgRequested (req : RCReq) : Prop where
  name : req.nameString = .ok qpName
  nameRecv : req.nameRecvString = .ok channelName
  whetherCreate : req.whetherCreate = 1
  whetherRecv : req.whetherRecv = 1
  nicId : req.nicId = nicId
  config : req.config = config
  attr : loc.rc.myAttr = .ok req.attr
  maxRecvSz : req.maxRecvSz = msgSz.setWidth 64

/-- The datagram is a call of `CreateRCM` with such a request, whatever the receive buffer of the server held before. -/
def MsgCalled (checksum : U64) (d : ByteBuffer) : Prop :=
  ∃ parameter req, (∀ old : ByteBuffer, old.length = kMaxMsgSz →
      SRpcHandler.request (overlay d old) = .ok (.call CreateRCM checksum parameter)) ∧
    dedump RCReq.format parameter = some req ∧ MsgRequested qpName channelName msgSz nicId config loc req

def MsgNamesKept (cm : ConnectManager ω) : Prop :=
  let call := ccRcMsg growth (recorded net) qpName channelName msgSz nicId config loc
    { rpc := cm.rpc, arrived := cm.arrived, peer := (cm.peer, []) }
  ((∃ desc, call.1.1 = .ok ⟨.Err, desc⟩ ∧ call.2.peer.2 = []) ∨
      ∃ d, call.2.peer.2 = [d] ∧ MsgCalled qpName channelName msgSz nicId config loc cm.rpc.checksum d) ∧
    ∀ c ∈ ccRcMsgCopies qpName channelName, c.Inside

variable {qpName channelName loc}

theorem ccRcMsg_sends (short : qpName.length ≤ kMaxQPNameLen)
    (room : kMaxQPNameLen + 1 + channelName.length ≤ RCReq.format.size) {attr : QPAttr}
    (known : loc.rc.myAttr = .ok attr) (cm : ConnectManager (ω × List ByteBuffer)) :
    (ccRcMsg growth (recorded net) qpName channelName msgSz nicId config loc cm).2.peer.2 =
      encode [dump SRpcHeader.format ⟨CreateRCM, cm.rpc.checksum⟩,
        dump RCReq.format { msgRequest qpName channelName msgSz nicId config with attr := attr }] :: cm.peer.2 := by
  have brief : (dump RCReq.format { msgRequest qpName channelName msgSz nicId config with attr := attr }).length ≤
      4054 := by
    rw [dump_length]
    decide
  rw [ccRcMsg, if_neg (Nat.not_lt.mpr short), if_neg (Nat.not_lt.mpr room), requestConnect_peer growth _ _ _ _ _ known]
  unfold ConnectManager.call
  rw [call_sends growth cm.rpc ⟨.Ok, []⟩ CreateRCM _ brief]
  rfl

theorem nameRecvString_nameField (short : channelName.length ≤ kMaxQPNameLen) {req : RCReq}
    (field : req.nameRecv = nameField channelName) : req.nameRecvString = .ok (readName channelName) := by
  obtain ⟨rest, same⟩ := nameField_terminated short
  rw [RCReq.nameRecvString, ← List.take_append_drop (kMaxQPNameLen + 1) ((dump RCReq.format req).drop _),
    RCReq.dump_drop_take, field, same, List.append_assoc, List.cons_append, cString_terminated]

/-- A name of 64 bytes leaves no room for the terminator, and the flag that follows, which is 1, is read with it. -/
theorem nameRecvString_full (full : channelName.length = kMaxQPNameLen + 1) (free : 0 ∉ channelName) {req : RCReq}
    (field : req.nameRecv = nameField channelName) (create : req.whetherCreate = 1) :
    req.nameRecvString ≠ .ok channelName := by
  have front : req.nameRecv.toList = channelName := by
    rw [field]
    change overlay channelName (List.replicate (kMaxQPNameLen + 1) 0) = channelName
    rw [overlay_of_le _ _ (by rw [List.length_replicate]; omega), List.drop_replicate, full, Nat.sub_self]
    exact List.append_nil _
  obtain ⟨rest, behind⟩ :
      ∃ rest, (dump RCReq.format req).drop (kMaxQPNameLen + 1) = channelName ++ 1 :: rest := by
    have fields : (dump RCReq.format req).drop (kMaxQPNameLen + 1) =
        req.nameRecv.toList ++ (dump (Codec.word 1) req.whetherCreate ++ _) :=
      List.drop_left' req.name.toList_length
    rw [front, create] at fields
    exact ⟨_, fields⟩
  have read : (channelName ++ 1 :: rest).takeWhile (· ≠ 0) = channelName ++ 1 :: rest.takeWhile (· ≠ 0) := by
    have whole : channelName.takeWhile (· ≠ 0) = channelName := readName_free free
    rw [List.takeWhile_append, if_pos (by rw [whole]), List.takeWhile_cons_of_pos (by decide)]
  rw [RCReq.nameRecvString, cString, behind, read]
  split
  · intro same
    have lengths := congrArg List.length (Except.ok.inj same)
    rw [List.length_append, List.length_cons] at lengths
    omega
  · intro same
    cases same

theorem msgRequested_iff (short : qpName.length ≤ kMaxQPNameLen) (qpFree : 0 ∉ qpName)
    (channelFree : 0 ∉ channelName) (fits : channelName.length ≤ kMaxQPNameLen + 1) {attr : QPAttr}
    (known : loc.rc.myAttr = .ok attr) :
    MsgRequested qpName channelName msgSz nicId config loc
        { msgRequest qpName channelName msgSz nicId config with attr := attr } ↔
      channelName.length ≤ kMaxQPNameLen := by
  constructor
  · intro requested
    by_contra long
    exact nameRecvString_full (by omega) channelFree rfl rfl requested.nameRecv
  · intro brief
    have name : RCReq.nameString { msgRequest qpName channelName msgSz nicId config with attr := attr } = .ok qpName :=
      (nameString_nameField short rfl).trans (congrArg Except.ok (readName_free qpFree))
    have nameRecv : RCReq.nameRecvString { msgRequest qpName channelName msgSz nicId config with attr := attr } =
        .ok channelName :=
      (nameRecvString_nameField brief rfl).trans (congrArg Except.ok (readName_free channelFree))
    exact ⟨name, nameRecv, rfl, rfl, rfl, rfl, known, rfl⟩

theorem msgCalled_iff (checksum : U64) (req : RCReq) :
    MsgCalled qpName channelName msgSz nicId config loc checksum
        (encode [dump SRpcHeader.format ⟨CreateRCM, checksum⟩, dump RCReq.format req]) ↔
      MsgRequested qpName channelName msgSz nicId config loc req := by
  have sent : ∀ old : ByteBuffer, old.length = kMaxMsgSz → SRpcHandler.request (overlay
      (encode [dump SRpcHeader.format ⟨CreateRCM, checksum⟩, dump RCReq.format req]) old) =
        .ok (.call CreateRCM checksum (dump RCReq.format req)) :=
    fun old full => request_encode ⟨CreateRCM, checksum⟩ _ old (by rw [dump_length]; decide) full
  constructor
  · intro ⟨parameter, read, decodes, parsed, requested⟩
    cases (sent _ List.length_replicate).symm.trans (decodes (List.replicate kMaxMsgSz 0) List.length_replicate)
    cases (dedump_self RCReq.format req).symm.trans parsed
    exact requested
  · exact fun requested => ⟨_, req, sent, dedump_self RCReq.format req, requested⟩

/-- Both names are encoded unless there is no room for the terminator of the channel name. -/
theorem msgNames_kept_iff (growth : StringGrowth) (net : Network ω) (qpName channelName : ByteBuffer)
    (qpFree : 0 ∉ qpName) (channelFree : 0 ∉ channelName) (msgSz : U32) (nicId : U64) (config : QPConfig)
    (loc : LocalEnd) (cm : ConnectManager ω) :
    MsgNamesKept growth net qpName channelName msgSz nicId config loc cm ↔
      kMaxQPNameLen < qpName.length ∨
        channelName.length ≤ kMaxQPNameLen ∧ ∃ attr, loc.rc.myAttr = .ok attr := by
  have max : kMaxQPNameLen = 63 := rfl
  have size : RCReq.format.size = 246 := rfl
  unfold MsgNamesKept
  by_cases long : kMaxQPNameLen < qpName.length
  · have refused : ∀ cm, ccRcMsg growth (recorded net) qpName channelName msgSz nicId config loc cm =
        ((.ok (errCase errNameToLong), loc), cm) := fun cm => if_pos long
    have uncopied : ccRcMsgCopies qpName channelName = [] := if_pos long
    rw [refused, uncopied]
    exact iff_of_true ⟨.inl ⟨_, rfl, rfl⟩, nofun⟩ (.inl long)
  · have short : qpName.length ≤ kMaxQPNameLen := Nat.not_lt.mp long
    have copies :
        (∀ c ∈ ccRcMsgCopies qpName channelName, c.Inside) ↔ channelName.length ≤ kMaxQPNameLen + 1 := by
      simp only [ccRcMsgCopies, nameCopies, long, ↓reduceIte, List.forall_mem_cons, List.not_mem_nil, false_implies,
        implies_true, and_true, NameCopy.inside_iff]
      omega
    rw [copies]
    have room : channelName.length ≤ kMaxQPNameLen + 1 →
        kMaxQPNameLen + 1 + channelName.length ≤ RCReq.format.size := by omega
    cases known : loc.rc.myAttr with
    | error e =>
      have left : channelName.length ≤ kMaxQPNameLen + 1 → ∀ cm,
          ccRcMsg growth (recorded net) qpName channelName msgSz nicId config loc cm = ((.error e, loc), cm) := by
        intro fits cm
        rw [ccRcMsg, if_neg long, if_neg (Nat.not_lt.mpr (room fits)), requestConnect, known]
      constructor
      · intro ⟨kept, fits⟩
        rw [left fits] at kept
        rcases kept with ⟨desc, refused, _⟩ | ⟨d, sent, _⟩
        · cases refused
        · cases sent
      · intro either
        rcases either with tooLong | ⟨_, attr, same⟩
        · exact absurd tooLong long
        · cases same
    | ok attr =>
      have sends := fun fits => ccRcMsg_sends growth net msgSz nicId config short (room fits) known
        { rpc := cm.rpc, arrived := cm.arrived, peer := (cm.peer, []) }
      constructor
      · intro ⟨kept, fits⟩
        rw [sends fits] at kept
        rcases kept with ⟨_, _, unsent⟩ | ⟨d, sent, called⟩
        · cases unsent
        · cases sent
          have requested := (msgCalled_iff msgSz nicId config cm.rpc.checksum _).mp called
          have brief := (msgRequested_iff msgSz nicId config short qpFree channelFree fits known).mp requested
          exact .inr ⟨brief, attr, rfl⟩
      · intro either
        have brief := (either.resolve_left long).1
        have fits : channelName.length ≤ kMaxQPNameLen + 1 := Nat.le_succ_of_le brief
        have requested := (msgRequested_iff msgSz nicId config short qpFree channelFree fits known).mpr brief
        exact ⟨.inr ⟨_, sends fits, (msgCalled_iff msgSz nicId config cm.rpc.checksum _).mpr requested⟩, fits⟩

def asker : LocalEnd where
  rc := { nic := ⟨1, some ⟨0, 0, 0⟩, some 7⟩, myConfig := {}, qp := some ⟨0, 9⟩, cq := some 1 }
  hw := {}
  calls := { createQp := none }
  connectError := []

theorem msgNames_kept_short :
    MsgNamesKept libstdcxx (fun _ peer => (⟨.Ok, []⟩, [], peer)) [113] [99] 4096 0 {} asker ⟨{}, [], ()⟩ :=
  (msgNames_kept_iff libstdcxx _ [113] [99] (by decide) (by decide) 4096 0 {} asker ⟨{}, [], ()⟩).mpr
    (.inr ⟨by decide, _, rfl⟩)

theorem channelName_overruns :
    ¬MsgNamesKept libstdcxx (fun _ peer => (⟨.Ok, []⟩, [], peer)) [113] (List.replicate 65 99) 4096 0 {} asker
      ⟨{}, [], ()⟩ := by
  intro ⟨_, inside⟩
  have fits := (NameCopy.inside_iff _).mp (inside ⟨kMaxQPNameLen + 1, List.replicate 65 99⟩ (.tail _ (.head _)))
  revert fits
  decide

end Sending

end RLib
