/-
What a log shown as JSON tells of the log.

A line of JSON shows every field of a record, and where it ends can be told from the line itself; so
the page tells the records, whatever stands in their file names, and the records tell their bytes.
The distances in time are not needed for it, so that nothing is lost where one is clamped.

* `Record.eq_of_toJson_eq` — the object that shows a record tells the record;
* `Transcript.eq_of_pageChars_eq` — the page tells the records;
* `records_eq_records_iff` — the records tell the bytes that were passed over;
* `Transcript.stop_of_result` — these end where the log does or where its failure is;
* `Transcript.output_json_eq_iff` — so the page tells these bytes.
-/
import PacketLog.Json.Spelling
import PacketLog.Numeral.Base58.Reading
import PacketLog.Proofs.Exactness
import PacketLog.Proofs.Showing

namespace PacketLog

theorem Utf8.encode_injective : Function.Injective Utf8.encode := by
  intro s t h
  have hdecode := congrArg Utf8.decode h
  rw [Utf8.decode_encode, Utf8.decode_encode] at hdecode
  exact Except.ok.inj hdecode

/-- The object that shows a record tells the record, whatever came before it. -/
theorem Record.eq_of_toJson_eq {r s : Record} {previous previous' : Option UInt64}
    (h : r.toJson previous = s.toJson previous') : r = s := by
  obtain ⟨traceId, timestamp, uid, packetLength, functionId, sequenceByte, errorByte, file,
    line⟩ := r
  -- Of the members that are read off others, and of the distance in time, none is needed.
  simp only [toJson, jsonByte, Json.object.injEq, List.cons.injEq, Prod.mk.injEq,
    Json.number.injEq, Json.string.injEq, true_and, and_true, Int.natCast_inj] at h
  obtain ⟨htrace, -, htime, -, huid, hlength, hfunction, -, -, -, -, hsequence, herror, hfile,
    hline⟩ := h
  obtain rfl := UInt64.toNat_inj.mp htrace
  obtain rfl := UInt64.toNat_inj.mp htime
  obtain rfl := UInt32.toUInt64_inj.mp (Base58.encode_injective huid)
  obtain rfl := UInt8.toNat_inj.mp hlength
  obtain rfl := UInt8.toNat_inj.mp hfunction
  obtain rfl := UInt8.toNat_inj.mp hsequence
  obtain rfl := UInt8.toNat_inj.mp herror
  obtain rfl := Int32.toInt_inj.mp hline
  rw [hfile]

namespace Transcript

/-- The characters of lines, a newline behind each. -/
def pageChars (texts : List String) : List Char := texts.flatMap fun text => text.toList ++ ['\n']

theorem page_eq (texts : List String) :
    page texts = Utf8.encode (String.ofList (pageChars texts)) := by
  induction texts with
  | nil => rfl
  | cons text texts ih =>
    have hchars : String.ofList (pageChars (text :: texts)) =
        text ++ "\n" ++ String.ofList (pageChars texts) := by
      rw [← String.toList_inj]
      simp [pageChars]
    rw [hchars, Utf8.encode_append, ← ih]
    rfl

theorem pageChars_lines_json (previous : Option UInt64) (r : Record) (rs : List Record) :
    pageChars (lines .json previous (r :: rs)) =
      (r.toJson previous).chars ++ '\n' :: pageChars (lines .json (some r.timestamp) rs) := by
  show ((r.toJson previous).render.toList ++ ['\n']) ++ _ = _
  rw [Json.render, String.toList_ofList, List.append_assoc]
  rfl

theorem pageChars_lines_json_ne_nil (previous : Option UInt64) (r : Record) (rs : List Record) :
    pageChars (lines .json previous (r :: rs)) ≠ [] := by
  rw [pageChars_lines_json]
  simp

/-- **The page tells the records**, whatever the records before the first ones were. -/
theorem eq_of_pageChars_eq {previous previous' : Option UInt64} {rs ss : List Record}
    (h : pageChars (lines .json previous rs) = pageChars (lines .json previous' ss)) : rs = ss := by
  induction rs generalizing previous previous' ss with
  | nil =>
    rcases ss with _ | ⟨s, ss⟩
    · rfl
    · exact absurd h.symm (pageChars_lines_json_ne_nil previous' s ss)
  | cons r rs ih =>
    rcases ss with _ | ⟨s, ss⟩
    · exact absurd h (pageChars_lines_json_ne_nil previous r rs)
    · rw [pageChars_lines_json, pageChars_lines_json] at h
      -- An object tells where it ends, so the first lines end together.
      obtain ⟨hobject, hrest⟩ :=
        Json.chars_append_inj _ _ (Json.stops_cons rfl) (Json.stops_cons rfl) h
      obtain rfl := Record.eq_of_toJson_eq hobject
      rw [ih (List.cons.inj hrest).2]

theorem records_eq_of_output_json_eq {bs cs : Bytes} (h : output .json bs = output .json cs) :
    records bs = records cs := by
  rw [output_eq, output_eq, page_eq, page_eq] at h
  exact eq_of_pageChars_eq (String.ofList_injective (Utf8.encode_injective h))

end Transcript

theorem encodeAll_records (bs : Bytes) :
    Record.encodeAll (records bs) = .ok (bs.take (Cursor.ofBytes bs).collect.2.offset) := by
  obtain ⟨rs, rest, defect, hcut⟩ := exists_isCut bs
  rw [hcut.records_eq, hcut.encodeAll_eq, hcut.stop_eq]

/-- Two byte strings hold the same records exactly if the bytes passed over are the same. -/
theorem records_eq_records_iff {bs cs : Bytes} :
    records bs = records cs ↔
      bs.take (Cursor.ofBytes bs).collect.2.offset =
        cs.take (Cursor.ofBytes cs).collect.2.offset := by
  have hbs := encodeAll_records bs
  have hcs := encodeAll_records cs
  constructor
  · intro h
    rw [h, hcs] at hbs
    exact (Except.ok.inj hbs).symm
  · intro h
    rw [← h] at hcs
    rw [← (isCut_of_encodeAll hbs).records_eq, (isCut_of_encodeAll hcs).records_eq]

namespace Transcript

/-- Showing a log on a writer that does not fail stops where taking items does: at the end of the
log if there is no failure, and where the failure is if there is one. -/
theorem stop_of_result (style : Style) (bs : Bytes) :
    let stop := (Cursor.ofBytes bs).collect.2.offset
    (∃ tally, (ofBytes style Sink.unlimited bs).result = .ok tally ∧ stop = bs.length) ∨
      ∃ e, (ofBytes style Sink.unlimited bs).result = .error (.corrupt e) ∧ stop = e.offset := by
  obtain ⟨rs, rest, defect, hcut⟩ := exists_isCut bs
  intro stop
  have hstop : stop = (Record.wires rs).length := hcut.stop_eq
  rw [result_unlimited, verdict, hstop]
  rcases hfailure : failure? bs with _ | e
  · exact .inl ⟨_, rfl, hcut.failure?_eq_none_iff.mp hfailure⟩
  · obtain ⟨rfl, -⟩ := hcut.of_failure? hfailure
    exact .inr ⟨_, rfl, rfl⟩

/-- **What a log shown as JSON tells of the log.**  Showing passes over the records before its end
or its failure.  Two logs are shown by the same page exactly if the bytes passed over are the same
in both; so logs that are shown without a failure are the same if their pages are. -/
theorem output_json_eq_iff (bs cs : Bytes) :
    let shown (xs : Bytes) := (ofBytes .json Sink.unlimited xs).result
    let stop (xs : Bytes) := (Cursor.ofBytes xs).collect.2.offset
    (∀ xs, (∃ tally, shown xs = .ok tally ∧ stop xs = xs.length) ∨
      ∃ e, shown xs = .error (.corrupt e) ∧ stop xs = e.offset) ∧
    (output .json bs = output .json cs ↔ bs.take (stop bs) = cs.take (stop cs)) ∧
    ∀ t u, shown bs = .ok t → shown cs = .ok u → output .json bs = output .json cs → bs = cs := by
  intro shown stop
  have hstop (xs : Bytes) : (∃ tally, shown xs = .ok tally ∧ stop xs = xs.length) ∨
      ∃ e, shown xs = .error (.corrupt e) ∧ stop xs = e.offset := stop_of_result .json xs
  have hiff : output .json bs = output .json cs ↔ bs.take (stop bs) = cs.take (stop cs) := by
    rw [← records_eq_records_iff]
    refine ⟨records_eq_of_output_json_eq, fun h => ?_⟩
    rw [output_eq, output_eq, h]
  -- A log that is shown without a failure is passed over as a whole.
  have hall {xs : Bytes} {tally : Tally} (hok : shown xs = .ok tally) : xs.take (stop xs) = xs := by
    rcases hstop xs with ⟨-, -, hlen⟩ | ⟨e, hfail, -⟩
    · rw [hlen, List.take_length]
    · rw [hok] at hfail
      exact absurd hfail (by simp)
  refine ⟨hstop, hiff, fun t u ht hu h => ?_⟩
  rw [← hall ht, hiff.mp h, hall hu]

end Transcript

end PacketLog
