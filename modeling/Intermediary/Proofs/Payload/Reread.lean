import Intermediary.Proofs.Header.Reread
import Intermediary.Request.Reader

/-!
# Reading a payload again

How a header and a payload belong together when they were read one after the
other, and why the payload is read again as it was.
-/

namespace Intermediary

open Text

namespace Header

/-! ## What trimming the values of a header keeps -/

theorem get?_trimmed (header : Header) (name : String) :
    header.trimmed.get? name = (header.get? name).map trim := by
  simp only [get?, find?, trimmed, List.find?_map, Option.map_map]
  rfl

theorem contains_trimmed (header : Header) (name : String) :
    header.trimmed.contains name = header.contains name := by
  simp [contains, get?_trimmed]

private theorem valueItems_trim (value : String) : valueItems (trim value) = valueItems value := by
  have hcomma : isBlank ',' = false := by decide
  unfold valueItems
  rw [map_trim_pieces_trim hcomma]

private theorem items_trimmed (header : Header) (name : String) :
    header.trimmed.items name = header.items name := by
  unfold items
  rw [get?_trimmed]
  cases header.get? name with
  | none => rfl
  | some value => exact valueItems_trim value

theorem isChunked_trimmed (header : Header) :
    header.trimmed.isChunked = header.isChunked := by
  unfold isChunked
  rw [items_trimmed]

private theorem number_trimmed {header : Header} {name : String} {n : Nat}
    (h : header.number name = .ok n) : header.trimmed.number name = .ok n := by
  unfold number at h ⊢
  rw [get?_trimmed]
  split at h
  · cases h
  · next value hvalue =>
    split at h
    · next n' hn =>
      cases h
      have htrim := trim_of_trimmed (clean_of_numeral? hn).trimmed
      simp only [hvalue, Option.map_some, htrim, hn]
    · cases h

/-! ## What the fields of a payload decide -/

private theorem isChunked_congr {header other : Header}
    (h : header.get? transferEncodingField = other.get? transferEncodingField) :
    header.isChunked = other.isChunked := by
  simp only [isChunked, items, h]

private theorem number_congr {header other : Header} {name : String}
    (h : header.get? name = other.get? name) :
    header.number name = other.number name := by
  simp only [number, h]

private theorem contains_congr {header other : Header} {name : String}
    (h : header.get? name = other.get? name) :
    header.contains name = other.contains name := by
  simp only [contains, h]

end Header

namespace Request

/-- A payload that belongs to a header, as the header describes it. -/
inductive Framed (header : Header) : Payload -> Prop where
  | absent (hchunked : header.isChunked = false)
      (hlength : header.contains contentLengthField = false) : Framed header .empty
  | chunked {lines sizes body} (hchunked : header.isChunked = true)
      (hbody : Payload.ChunkedBody lines sizes body) :
      Framed header ⟨body, sizes.sum⟩
  | sized {body} (hchunked : header.isChunked = false)
      (hnumber : header.number contentLengthField = .ok body.length) :
      Framed header (.ofBytes body)

theorem contains_of_number {header : Header} {name : String} {n : Nat}
    (h : header.number name = .ok n) : header.contains name = true := by
  unfold Header.number at h
  split at h
  · cases h
  · next hvalue => simp [Header.contains, hvalue]

theorem framed_of_readPayload {limits : Limits} {header : Header}
    {stream rest : Bytes} {payload : Payload}
    (h : readPayload limits header stream = .ok (payload, rest)) :
    Framed header payload := by
  unfold readPayload announcesPayload Payload.read at h
  by_cases hchunked : header.isChunked = true
  · simp only [hchunked, Bool.true_or, if_true] at h
    obtain ⟨body, lines, sizes, _, hbody, _, _, rfl⟩ :=
      Payload.exists_body_of_readChunked h
    exact .chunked hchunked hbody
  · rw [Bool.not_eq_true] at hchunked
    cases hlength : header.contains contentLengthField with
    | false =>
        simp only [hchunked, hlength, Bool.or_self, Bool.false_eq_true, if_false] at h
        cases h
        exact .absent hchunked hlength
    | true =>
        simp only [hchunked, hlength, Bool.or_true, if_true, Bool.false_eq_true,
          if_false] at h
        split at h
        · cases h
        · next length hnumber =>
          unfold Payload.readExact at h
          split at h
          · cases h
          · split at h
            · next block rest' hblock =>
              cases h
              obtain ⟨_, hlength⟩ := Block.take_eq_ok_iff.1 hblock
              exact .sized hchunked (hlength ▸ hnumber)
            · cases h

def ChunkLinesFit (limits : Limits) (header : Header) (payload : Payload) : Prop :=
  header.isChunked = true -> ∀ lines sizes,
    Payload.ChunkedBody lines sizes payload.bytes ->
      ∀ line ∈ lines, line.length ≤ limits.lineBytes

/-- No line of a payload is longer than the payload. -/
theorem chunkLinesFit_of_size {limits : Limits} {header : Header} {payload : Payload}
    (h : payload.size ≤ limits.lineBytes) : ChunkLinesFit limits header payload :=
  fun _ _ _ hbody line hline => Nat.le_trans (hbody.length_le line hline) h

theorem readPayload_of_framed {limits : Limits} {header : Header} {payload : Payload}
    (h : Framed header payload) (hsize : payload.size ≤ limits.payloadBytes)
    (hlines : ChunkLinesFit limits header payload) (rest : Bytes) :
    readPayload limits header (payload.bytes ++ rest) = .ok (payload, rest) := by
  unfold readPayload announcesPayload Payload.read
  cases h with
  | absent hchunked hlength =>
      simp only [hchunked, hlength, Bool.or_self, Bool.false_eq_true, if_false]
      rfl
  | @chunked lines sizes body hchunked hbody =>
      simp only [hchunked, Bool.true_or, if_true]
      exact Payload.readChunked_body hbody (hlines hchunked lines sizes hbody) hsize rest
  | @sized body hchunked hnumber =>
      have hlength := contains_of_number hnumber
      have hblock : Block.take body.length (body ++ rest) = .ok (body, rest) :=
        Block.take_eq_ok_iff.2 ⟨rfl, rfl⟩
      have hroom : ¬ limits.payloadBytes < body.length := Nat.not_lt.2 hsize
      simp only [hchunked, hlength, hnumber, Bool.or_true, if_true, Bool.false_eq_true,
        if_false, Payload.readExact, if_neg hroom, Payload.ofBytes, hblock]

theorem Framed.trimmed {header : Header} {payload : Payload}
    (h : Framed header payload) : Framed header.trimmed payload := by
  cases h with
  | absent hchunked hlength =>
      refine .absent ?_ ?_
      · rw [Header.isChunked_trimmed, hchunked]
      · rw [Header.contains_trimmed, hlength]
  | chunked hchunked hbody =>
      exact .chunked (by rw [Header.isChunked_trimmed, hchunked]) hbody
  | sized hchunked hnumber =>
      refine .sized ?_ (Header.number_trimmed hnumber)
      rw [Header.isChunked_trimmed, hchunked]

theorem Framed.congr {header other : Header} {payload : Payload}
    (h : Framed header payload)
    (hcoding : other.get? transferEncodingField = header.get? transferEncodingField)
    (hlength : other.get? contentLengthField = header.get? contentLengthField) :
    Framed other payload := by
  have hchunked := Header.isChunked_congr hcoding
  cases h with
  | absent hnone habsent =>
      exact .absent (hchunked.trans hnone) ((Header.contains_congr hlength).trans habsent)
  | chunked hcoded hbody => exact .chunked (hchunked.trans hcoded) hbody
  | sized hnone hnumber =>
      exact .sized (hchunked.trans hnone) ((Header.number_congr hlength).trans hnumber)

end Request

end Intermediary
