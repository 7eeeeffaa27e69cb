/-
  What becomes of a request that the format cannot express.

  The encoders of `rpc_message.h`, `rpc_conn.h` and `rpc_stream.h` narrow name lengths to 16 bits and
  body lengths to 32 bits and still emit every byte.  So the length fields of an oversize message say
  something else than its bytes, and a reader that finds a well-formed message there anyway reads
  another one.

  * For a request, `RpcRequest.intact_serialize_iff` says exactly when that cannot happen: the lengths fit their
    fields, or the reader refuses the frame — because of the narrowed body length, or because the
    fields that the narrowed lengths point at run over it.
  * For a `STREAM_INIT` body the second case does not exist: oversize names are always misread
    (`StreamInitRequest.intact_serialize_iff`), since a truncated length is always shorter than the bytes that follow it.
-/
import GalayRpc.Stream

namespace GalayRpc

/-! ## Requests -/

/-- The lengths of the request fit the fields they are written to. -/
def RpcRequest.LengthsFit (r : RpcRequest) : Prop :=
  r.serviceName.length ≤ 65535 ∧ r.methodName.length ≤ 65535 ∧ r.bodySize < 2 ^ 32

/-- A reader refuses what is emitted for the request: the body length in the header exceeds the
    protocol's limit, or the two names that the length fields announce run over the body so long. -/
def RpcRequest.Refused (r : RpcRequest) : Prop :=
  rpcMaxBodySize < r.bodySize % 2 ^ 32 ∨
    r.bodySize % 2 ^ 32 < 4 + r.serviceName.length % 65536 +
      beNat (slice (r.serviceName ++ beBytes 2 r.methodName.length ++ r.methodName ++ r.payload)
        (r.serviceName.length % 65536) 2)

/-- The same call. -/
def RpcRequest.SameCall (r r' : RpcRequest) : Prop :=
  r'.serviceName = r.serviceName ∧ r'.methodName = r.methodName ∧ r'.payload = r.payload

/-- Whatever reads a first frame off the bytes `b` emitted for `r` reads the call that `r` is, and takes
    all of `b` for it. -/
def RpcRequest.Intact (r : RpcRequest) (b : Bytes) : Prop :=
  (∀ r', decodeRequest b = .ok r' → r.SameCall r' ∧ messageLength b = b.length) ∧
  (∀ segments : List Bytes, segments.length ≤ 2 → segments.flatten = b →
    ∀ maxMessageSize request n r', 0 < n →
      tryParseRequestMessage segments (iovecsReadableBytes segments) maxMessageSize request =
        (.ok n, r') → r.SameCall r' ∧ n = b.length)

/-- All readers at once: it is enough to look at the abstract one. -/
theorem RpcRequest.intact_iff (r : RpcRequest) (b : Bytes) :
    r.Intact b ↔ ∀ n a, (requestParser protocolLimit).parse b = .ok (some (n, a)) →
      (a.serviceName = r.serviceName ∧ a.methodName = r.methodName ∧ a.payload = r.payload) ∧
        n = b.length := by
  constructor
  · intro h n a hparse
    obtain ⟨r', hdec, rfl⟩ := ((decodeRequest_spec b).ok_iff a).mpr ⟨n, hparse⟩
    obtain ⟨hsame, hlen⟩ := h.1 r' hdec
    rw [messageLength_of_parse hparse] at hlen
    exact ⟨hsame, hlen⟩
  · intro h
    refine ⟨?_, ?_⟩
    · intro r' hdec
      obtain ⟨n, hparse⟩ := ((decodeRequest_spec b).ok_iff r'.msg).mp ⟨r', hdec, rfl⟩
      rw [messageLength_of_parse hparse]
      exact h n r'.msg hparse
    · rintro segments h2 rfl maxMessageSize request n r' hpos hout
      have hspec := tryParseRequestMessage_spec h2 maxMessageSize request
      rw [hout] at hspec
      rcases hp : (requestParser (maxMessageSize + 16).toNat).parse segments.flatten with
        code | _ | ⟨n', a⟩
      all_goals rw [hp] at hspec
      · obtain ⟨text, hbad⟩ := hspec
        nomatch (Prod.mk.inj hbad).1
      · obtain ⟨hzero, -⟩ := Prod.mk.inj hspec
        have hn : n = 0 := Except.ok.inj hzero
        omega
      · obtain ⟨m, hok, rfl⟩ := hspec
        obtain ⟨hn, rfl⟩ := Prod.mk.inj hok
        obtain rfl : n = n' := Except.ok.inj hn
        exact h n r'.msg (parseFrame_of_some hp)

/-- What the abstract reader makes of the bytes emitted for a request of any size: it goes by the
    narrowed body length, and by the narrowed service length inside. -/
theorem requestParser_frame_iff (m : RequestMsg) (n : Nat) (a : RequestMsg) :
    (requestParser protocolLimit).parse m.frame = .ok (some (n, a)) ↔
      m.body.length % 2 ^ 32 ≤ rpcMaxBodySize ∧ n = rpcHeaderSize + m.body.length % 2 ^ 32 ∧
      ∃ s mt p, splitNames (m.body.take (m.body.length % 2 ^ 32)) = some (s, mt, p) ∧
        a = ⟨m.requestId, m.callMode, m.endOfStream, s, mt, p⟩ := by
  have hof : RpcHeader.ofBytes m.frame = m.header := RpcHeader.ofBytes_serialize _ _
  have hlen : m.header.bodyLength.toNat = m.body.length % 2 ^ 32 := UInt32.toNat_ofNat'
  have hslice : ∀ k, slice m.frame rpcHeaderSize k = m.body.take k := by
    intro k
    rw [RequestMsg.frame, slice_append_right _ _ (Nat.le_of_eq (RpcHeader.serialize_length _)),
      RpcHeader.serialize_length, Nat.sub_self, slice_from_zero]
  have hread : ∀ body, RequestMsg.read m.header body = some a ↔
      ∃ s mt p, splitNames body = some (s, mt, p) ∧
        a = ⟨m.requestId, m.callMode, m.endOfStream, s, mt, p⟩ := by
    intro body
    rw [RequestMsg.read, Option.map_eq_some_iff]
    constructor
    · rintro ⟨⟨s, mt, p⟩, hsplit, rfl⟩
      exact ⟨s, mt, p, hsplit, by simp [RequestMsg.header]⟩
    · rintro ⟨s, mt, p, hsplit, rfl⟩
      exact ⟨(s, mt, p), hsplit, by simp [RequestMsg.header]⟩
  have hle : m.body.length % 2 ^ 32 ≤ m.body.length := Nat.mod_le _ _
  show parseFrame .request .invalidRequest RequestMsg.read protocolLimit m.frame = _ ↔ _
  rw [parseFrame_eq_some, hof, hlen, hslice, hread, RequestMsg.frame_length]
  constructor
  · rintro ⟨hacc, -, hn, -, -, hsplit⟩
    have hmax := hacc.2
    rw [hlen] at hmax
    exact ⟨hmax, hn, hsplit⟩
  · rintro ⟨hmax, rfl, hsplit⟩
    exact ⟨⟨rfl, by rw [hlen]; exact hmax⟩, rfl, rfl, Nat.add_le_add_left hmax _,
      Nat.add_le_add_left hle _, hsplit⟩

/-- The first two fields of a body, as a reader sees them that goes by the narrowed service length. -/
theorem splitNames_body (m : RequestMsg) {k w L : Nat} (hk : k = m.serviceName.length % 65536)
    (hw : w = beNat (slice (m.serviceName ++ beBytes 2 m.methodName.length ++ m.methodName ++ m.payload)
      k 2)) (hL : L ≤ m.body.length) :
    splitNames (m.body.take L) =
      if 4 + k + w ≤ L then
        some (slice m.body 2 k, slice m.body (4 + k) w, slice m.body (4 + k + w) (L - (4 + k + w)))
      else none := by
  have hbody : m.body = beBytes 2 m.serviceName.length ++
      (m.serviceName ++ beBytes 2 m.methodName.length ++ m.methodName ++ m.payload) := by
    rw [RequestMsg.body, serializeNames, rpcHtons_ofNat, rpcHtons_ofNat]
    simp only [List.append_assoc]
  have hfirst : beNat (slice m.body 0 2) = k := by
    rw [hbody, slice_from_zero, List.take_left' (beBytes_length 2 _), hk]
    exact beNat_beBytes 2 _
  have hsecond : beNat (slice m.body (0 + 2 + k) 2) = w := by
    rw [hbody, slice_append_right _ _ (by rw [beBytes_length]; omega), beBytes_length, hw]
    congr 2
    omega
  rw [← slice_from_zero, splitNames_slice (by omega), hfirst, hsecond, Nat.zero_add, Nat.zero_add]

theorem beNat_slice_two_lt (l : Bytes) (off : Nat) : beNat (slice l off 2) < 65536 := by
  have hlt := beNat_lt (slice l off 2)
  have hle : (slice l off 2).length ≤ 2 := by
    rw [slice_length]
    exact Nat.min_le_left _ _
  have hpow : 256 ^ (slice l off 2).length ≤ 256 ^ 2 := Nat.pow_le_pow_right (by decide) hle
  omega

/-- **When an emitted request cannot be misread**: exactly when its lengths fit their fields or readers
    refuse it. -/
theorem RpcRequest.intact_serialize_iff (r : RpcRequest) :
    r.Intact r.serialize ↔ r.LengthsFit ∨ r.Refused := by
  rw [RpcRequest.intact_iff, RpcRequest.serialize_eq]
  simp only [requestParser_frame_iff]
  have hB : r.bodySize = r.msg.body.length := r.bodySize_eq
  have hle : r.msg.body.length % 2 ^ 32 ≤ r.msg.body.length := Nat.mod_le _ _
  obtain ⟨w, hw⟩ : ∃ w, w = beNat (slice (r.serviceName ++ beBytes 2 r.methodName.length ++
    r.methodName ++ r.payload) (r.serviceName.length % 65536) 2) := ⟨_, rfl⟩
  have hsplit := splitNames_body r.msg rfl hw hle
  have hrefused_iff : r.Refused ↔ rpcMaxBodySize < r.msg.body.length % 2 ^ 32 ∨
      r.msg.body.length % 2 ^ 32 < 4 + r.serviceName.length % 65536 + w := by
    rw [RpcRequest.Refused, hB, ← hw]
  rw [hrefused_iff]
  constructor
  · intro h
    by_contra hbad
    obtain ⟨hfit, hrefused⟩ := not_or.mp hbad
    obtain ⟨hmax, hrange⟩ := not_or.mp hrefused
    -- the reader accepts what the narrowed lengths point at ...
    rw [if_pos (show 4 + r.msg.serviceName.length % 65536 + w ≤ _ from Nat.le_of_not_lt hrange)]
      at hsplit
    obtain ⟨⟨hs, hm, -⟩, hn⟩ := h _ _ ⟨Nat.le_of_not_lt hmax, rfl, _, _, _, hsplit, rfl⟩
    -- ... and that is short enough for the fields, so it is not all of the request
    apply hfit
    have hslen := congrArg List.length hs
    have hmlen := congrArg List.length hm
    have hwlt : w < 65536 := by
      rw [hw]
      exact beNat_slice_two_lt _ _
    rw [slice_length] at hslen hmlen
    rw [RequestMsg.frame_length] at hn
    have hlt : r.msg.body.length % 2 ^ 32 < 2 ^ 32 := Nat.mod_lt _ (by decide)
    refine ⟨?_, ?_, ?_⟩
    · show r.serviceName.length ≤ 65535
      omega
    · show r.methodName.length ≤ 65535
      omega
    · omega
  · rintro h n a ⟨hmax, hn, s, mt, p, hread, rfl⟩
    rcases h with ⟨hs, hm, hsize⟩ | hrefused
    · -- the lengths fit: nothing is narrowed
      rw [hB] at hsize
      rw [Nat.mod_eq_of_lt hsize] at hn hread
      rw [List.take_length] at hread
      have hown : splitNames r.msg.body = some (r.msg.serviceName, r.msg.methodName, r.msg.payload) :=
        splitNames_eq_some.mpr ⟨Nat.lt_succ_of_le hs, Nat.lt_succ_of_le hm, rfl⟩
      rw [hown] at hread
      obtain ⟨rfl, hrest⟩ := Prod.mk.inj (Option.some.inj hread)
      obtain ⟨rfl, rfl⟩ := Prod.mk.inj hrest
      rw [RequestMsg.frame_length]
      exact ⟨⟨rfl, rfl, rfl⟩, hn⟩
    · exfalso
      rcases hrefused with hbig | hrange
      · omega
      · rw [hread, if_neg (show ¬ 4 + r.msg.serviceName.length % 65536 + w ≤ _ from
          Nat.not_le.mpr hrange)] at hsplit
        cases hsplit

/-! ## Stream initialisation -/

/-- Whatever `deserializeBody` accepts of the body of the emitted bytes `b` are the names of `r`. -/
def StreamInitRequest.Intact (r : StreamInitRequest) (b : Bytes) : Prop :=
  ∀ target r' : StreamInitRequest,
    target.deserializeBody (b.drop rpcHeaderSize) (b.drop rpcHeaderSize).length = (true, r') →
      r'.serviceName = r.serviceName ∧ r'.methodName = r.methodName

/-- What `deserializeBody` accepts are two names in front of the body. -/
theorem StreamInitRequest.deserializeBody_iff (target r' : StreamInitRequest) (body : Bytes) :
    target.deserializeBody body body.length = (true, r') ↔
      ∃ s m p, splitNames body = some (s, m, p) ∧
        r' = { target with serviceName := s, methodName := m } := by
  constructor
  · intro h
    have hspec := deserializeNames_spec (Nat.le_refl body.length) target.serviceName target.methodName
    rw [List.take_length] at hspec
    rcases hsplit : splitNames body with _ | ⟨s, m, p⟩
    · rw [hsplit] at hspec
      unfold StreamInitRequest.deserializeBody at h
      generalize deserializeNames body body.length target.serviceName target.methodName = d at h hspec
      obtain ⟨offset, s, m⟩ := d
      obtain rfl : offset = none := hspec
      nomatch (Prod.mk.inj h).1
    · rw [StreamInitRequest.deserializeBody_of_splitNames hsplit] at h
      exact ⟨s, m, p, rfl, (Prod.mk.inj h).2.symm⟩
  · rintro ⟨s, m, p, hsplit, rfl⟩
    exact StreamInitRequest.deserializeBody_of_splitNames hsplit target

/-- **A `STREAM_INIT` body is read back exactly when both names fit their length fields**; an oversize
    name is never refused. -/
theorem StreamInitRequest.intact_serialize_iff (r : StreamInitRequest) :
    r.Intact r.serialize ↔ r.serviceName.length ≤ 65535 ∧ r.methodName.length ≤ 65535 := by
  have hbody : r.serialize.drop rpcHeaderSize = serializeNames r.serviceName r.methodName :=
    List.drop_left' (RpcHeader.serialize_length _)
  unfold StreamInitRequest.Intact
  rw [hbody]
  simp only [StreamInitRequest.deserializeBody_iff]
  constructor
  · intro h
    -- the body of a request without payload, so its reading is known
    let m : RequestMsg := ⟨0, .unary, true, r.serviceName, r.methodName, []⟩
    have hm : m.body = serializeNames r.serviceName r.methodName := List.append_nil _
    obtain ⟨w, hw⟩ : ∃ w, w = beNat (slice (r.serviceName ++ beBytes 2 r.methodName.length ++
      r.methodName ++ []) (r.serviceName.length % 65536) 2) := ⟨_, rfl⟩
    have hwlt : w < 65536 := by
      rw [hw]
      exact beNat_slice_two_lt _ _
    have hsplit := splitNames_body m rfl hw (Nat.le_refl m.body.length)
    rw [List.take_length, hm] at hsplit
    -- a narrowed length is at least 65536 short of what follows it
    have hroom : 4 + m.serviceName.length % 65536 + w ≤
        (serializeNames r.serviceName r.methodName).length := by
      rw [serializeNames_length]
      show 4 + r.serviceName.length % 65536 + w ≤ _
      rcases Nat.lt_or_ge r.serviceName.length 65536 with hs | hs
      · have hslice : slice (r.serviceName ++ beBytes 2 r.methodName.length ++ r.methodName ++ [])
            (r.serviceName.length % 65536) 2 = beBytes 2 r.methodName.length := by
          rw [Nat.mod_eq_of_lt hs, List.append_assoc, List.append_assoc,
            slice_append_right _ _ (Nat.le_refl _), Nat.sub_self, slice_from_zero,
            List.take_left' (beBytes_length 2 _)]
        rw [hslice, beNat_beBytes] at hw
        have hle : r.methodName.length % 256 ^ 2 ≤ r.methodName.length := Nat.mod_le _ _
        rw [Nat.mod_eq_of_lt hs]
        omega
      · have hmod := Nat.mod_add_div r.serviceName.length 65536
        omega
    rw [if_pos hroom] at hsplit
    obtain ⟨hs, hmt⟩ := h {} _ ⟨_, _, _, hsplit, rfl⟩
    have hslen := congrArg List.length hs
    have hmlen := congrArg List.length hmt
    rw [slice_length] at hslen hmlen
    have hk : m.serviceName.length % 65536 < 65536 := Nat.mod_lt _ (by decide)
    exact ⟨by omega, by omega⟩
  · rintro ⟨hs, hm⟩ target r' ⟨s, m, p, hread, rfl⟩
    have hown : splitNames (serializeNames r.serviceName r.methodName) =
        some (r.serviceName, r.methodName, []) :=
      splitNames_eq_some.mpr
        ⟨Nat.lt_succ_of_le hs, Nat.lt_succ_of_le hm, (List.append_nil _).symm⟩
    rw [hown] at hread
    obtain ⟨rfl, hrest⟩ := Prod.mk.inj (Option.some.inj hread)
    obtain ⟨rfl, -⟩ := Prod.mk.inj hrest
    exact ⟨rfl, rfl⟩

/-- **When oversize messages are not silently corrupted.**  The bytes emitted for a request, by either
    encoder, are read as that request and nothing else if and only if its lengths fit their fields or
    readers refuse it; and the body of a `STREAM_INIT`, by either encoder, if and only if both names
    fit. -/
theorem intact_iff_lengths_fit (r : RpcRequest) (i : StreamInitRequest) :
    ((r.Intact r.serialize ∧ r.Intact (RpcRequestWriteState r).iovecs.flatten) ↔
      r.LengthsFit ∨ r.Refused) ∧
    ((i.Intact i.serialize ∧ i.Intact (StreamFrame.init i.streamId i.serviceName i.methodName).bytes) ↔
      i.serviceName.length ≤ 65535 ∧ i.methodName.length ≤ 65535) := by
  constructor
  · rw [RpcRequestWriteState_flatten, and_self, RpcRequest.intact_serialize_iff]
  · rw [StreamInitRequest.serialize_eq, and_self, StreamInitRequest.intact_serialize_iff]

/-- Zero bytes by the multiple of 65536 in place of a service name: the length on the wire is 0, and
    readers see a call of the empty method of the empty service. -/
theorem not_intact_of_zeros {n : Nat} (hpos : 0 < n) (hmod : n % 65536 = 0)
    (hmax : n + 4 ≤ rpcMaxBodySize) {r : RpcRequest}
    (hr : r = { serviceName := List.replicate n 0 }) : ¬ r.Intact r.serialize := by
  intro h
  have hS : r.serviceName.length = n := by
    rw [hr]
    exact List.length_replicate
  have hsize : r.bodySize = n + 4 := by
    rw [RpcRequest.bodySize, hS, hr]
    show 2 + n + 2 + 0 + 0 = n + 4
    omega
  have hword : beNat (slice (r.serviceName ++ beBytes 2 r.methodName.length ++ r.methodName ++ r.payload)
      0 2) = 0 := by
    rw [List.append_assoc, List.append_assoc, slice_append _ _ (by rw [hS]; omega), slice_from_zero, hr,
      List.take_replicate, Nat.min_eq_left (by omega)]
    rfl
  have hbound : rpcMaxBodySize < 2 ^ 32 := by decide
  rcases (RpcRequest.intact_serialize_iff r).mp h with ⟨hs, -⟩ | hrefused
  · omega
  · rw [RpcRequest.Refused, hsize, hS, hmod, hword, Nat.mod_eq_of_lt (by omega)] at hrefused
    omega

theorem oversize_service_corrupted :
    ¬ (let r : RpcRequest := { serviceName := List.replicate 65536 0 }
      r.Intact r.serialize) :=
  not_intact_of_zeros (by decide) rfl (by decide) rfl

end GalayRpc
