/-
**TXT records over HTTPS** (`decode_dnsaddr_txt_value` of `crates/connectivity/dns.rs` and `crates/connectivity/dns/doh.rs`).

The answer to a TXT lookup is JSON. Of its answers the TXT records are taken, each of them decoded from its quoted form,
and the ones that start with `dnsaddr=` are kept.
-/

import P2pNet.Lib.Text
import P2pNet.Lib.Checked

namespace P2pNet.Connectivity

open Lib

def dnsaddrPrefix : String := "dnsaddr="

def maxDnsaddrTxtBytes : ℕ := 4096

def dnsTxtRecordType : UInt32 := 16

/-! ### Quoted texts -/

/-- The check of the loop: the text decoded so far. -/
def checkTxtSize (out : List Char) : Except String Unit :=
  rejectIf ((String.ofList out).utf8ByteSize > maxDnsaddrTxtBytes)
    s!"TXT record exceeded {maxDnsaddrTxtBytes} bytes"

/-- The loop of `decode_dnsaddr_txt_value`. -/
def decodeTxtLoop : List Char → Bool → List Char → Except String (List Char)
  | [], inQuote, out => if inQuote then .error "TXT record has unterminated quote" else .ok out
  | '"' :: rest, inQuote, out => do
    checkTxtSize out
    decodeTxtLoop rest (!inQuote) out
  | '\\' :: next :: rest, true, out => do
    checkTxtSize (out ++ [next])
    decodeTxtLoop rest true (out ++ [next])
  | ['\\'], true, _ => .error "TXT record has trailing escape"
  | char :: rest, true, out => do
    checkTxtSize (out ++ [char])
    decodeTxtLoop rest true (out ++ [char])
  | char :: rest, false, out =>
    if Text.isWhitespace char then do
      checkTxtSize out
      decodeTxtLoop rest false out
    else .error s!"unexpected unquoted TXT character `{char}`"

def decodeDnsaddrTxtValue (data : String) : Except String String :=
  let trimmed := Text.trim data
  if trimmed.utf8ByteSize > maxDnsaddrTxtBytes then .error s!"TXT record exceeded {maxDnsaddrTxtBytes} bytes"
  else if '"' ∉ trimmed.toList then .ok trimmed
  else (decodeTxtLoop trimmed.toList false []).map String.ofList

example : decodeDnsaddrTxtValue "\"dnsaddr=/ip4/\" \"127.0.0.1\"" = .ok "dnsaddr=/ip4/127.0.0.1" := by decide

/-! ### Writing quoted texts -/

/-- A chunk with a backslash before each quote and each backslash. -/
def escapeTxt (chunk : List Char) : List Char :=
  chunk.flatMap fun char => if char = '"' ∨ char = '\\' then ['\\', char] else [char]

def quoteTxt (chunk : List Char) : List Char := '"' :: (escapeTxt chunk ++ ['"'])

/-- Quoted chunks, each but the first after a separator. -/
def writeTxt (first : String) (rest : List (String × String)) : String :=
  String.ofList (quoteTxt first.toList ++ rest.flatMap fun part => part.1.toList ++ quoteTxt part.2.toList)

theorem checkTxtSize_ok {out : List Char} (small : String.utf8Len out ≤ maxDnsaddrTxtBytes) :
    checkTxtSize out = .ok () := by
  unfold checkTxtSize
  rw [rejectIf_ok_iff, String.utf8ByteSize_ofList]
  exact not_lt.mpr small

theorem utf8Len_escapeTxt (chunk : List Char) : String.utf8Len chunk ≤ String.utf8Len (escapeTxt chunk) := by
  induction chunk with
  | nil => exact le_rfl
  | cons char rest ih =>
    unfold escapeTxt at ih ⊢
    rw [List.flatMap_cons, String.utf8Len_append]
    split_ifs <;> simp only [String.utf8Len_cons, String.utf8Len_nil] <;> omega

/-- Inside quotes an escaped chunk is read as the chunk. -/
theorem decodeTxtLoop_escapeTxt (chunk rest out : List Char)
    (small : String.utf8Len (out ++ chunk) ≤ maxDnsaddrTxtBytes) :
    decodeTxtLoop (escapeTxt chunk ++ rest) true out = decodeTxtLoop rest true (out ++ chunk) := by
  induction chunk generalizing out with
  | nil => rw [List.append_nil]; rfl
  | cons char later ih =>
    have whole : out ++ char :: later = out ++ [char] ++ later := by simp
    rw [whole] at small ⊢
    have checked : checkTxtSize (out ++ [char]) = .ok () := by
      rw [String.utf8Len_append] at small
      exact checkTxtSize_ok (by omega)
    rw [← ih _ small]
    unfold escapeTxt
    rw [List.flatMap_cons]
    by_cases special : char = '"' ∨ char = '\\'
    · rw [if_pos special]
      simp [decodeTxtLoop, checked, ok_bind]
    · rw [if_neg special]
      rw [not_or] at special
      simp [decodeTxtLoop, checked, ok_bind, special]

/-- Between the quotes only white space may stand. -/
theorem decodeTxtLoop_space {space : List Char} (white : ∀ char ∈ space, Text.isWhitespace char = true)
    (rest : List Char) {out : List Char} (small : String.utf8Len out ≤ maxDnsaddrTxtBytes) :
    decodeTxtLoop (space ++ rest) false out = decodeTxtLoop rest false out := by
  induction space with
  | nil => rfl
  | cons char later ih =>
    have blank := white char List.mem_cons_self
    have different : char ≠ '"' := by
      rintro rfl
      revert blank
      decide
    rw [← ih fun other member => white other (List.mem_cons_of_mem _ member)]
    simp [decodeTxtLoop, blank, checkTxtSize_ok small, ok_bind]

/-- A quoted chunk is read as the chunk. -/
theorem decodeTxtLoop_quoteTxt (chunk rest : List Char) {out : List Char}
    (small : String.utf8Len (out ++ chunk) ≤ maxDnsaddrTxtBytes) :
    decodeTxtLoop (quoteTxt chunk ++ rest) false out = decodeTxtLoop rest false (out ++ chunk) := by
  have first : checkTxtSize out = .ok () := by
    rw [String.utf8Len_append] at small
    exact checkTxtSize_ok (by omega)
  unfold quoteTxt
  rw [List.cons_append, List.append_assoc, decodeTxtLoop, first, ok_bind]
  show decodeTxtLoop (escapeTxt chunk ++ _) true out = _
  rw [decodeTxtLoop_escapeTxt _ _ _ small, List.singleton_append, decodeTxtLoop, checkTxtSize_ok small, ok_bind]
  rfl

/-- The chunks behind the first one. -/
theorem decodeTxtLoop_parts (parts : List (String × String)) (out : List Char)
    (white : ∀ part ∈ parts, ∀ char ∈ part.1.toList, Text.isWhitespace char = true)
    (small : String.utf8Len (out ++ parts.flatMap fun part => part.2.toList) ≤ maxDnsaddrTxtBytes) :
    decodeTxtLoop (parts.flatMap fun part => part.1.toList ++ quoteTxt part.2.toList) false out
      = .ok (out ++ parts.flatMap fun part => part.2.toList) := by
  induction parts generalizing out with
  | nil => simp [decodeTxtLoop]
  | cons part rest ih =>
    simp only [List.flatMap_cons] at small ⊢
    rw [← List.append_assoc] at small
    have here : String.utf8Len (out ++ part.2.toList) ≤ maxDnsaddrTxtBytes := by
      rw [String.utf8Len_append] at small
      omega
    have before : String.utf8Len out ≤ maxDnsaddrTxtBytes := by
      rw [String.utf8Len_append] at here
      omega
    rw [List.append_assoc, decodeTxtLoop_space (white part List.mem_cons_self) _ before,
      decodeTxtLoop_quoteTxt _ _ here, ← List.append_assoc]
    exact ih _ (fun later member => white later (List.mem_cons_of_mem _ member)) small

/-- Everything that is written is at least as long as what it stands for. -/
theorem utf8Len_writeTxt (first : String) (parts : List (String × String)) :
    String.utf8Len (first.toList ++ parts.flatMap fun part => part.2.toList)
      ≤ (writeTxt first parts).utf8ByteSize := by
  have chunk (text : String) : String.utf8Len text.toList ≤ String.utf8Len (quoteTxt text.toList) := by
    have longer := utf8Len_escapeTxt text.toList
    unfold quoteTxt
    simp only [String.utf8Len_cons, String.utf8Len_append]
    omega
  have rest : String.utf8Len (parts.flatMap fun part => part.2.toList)
      ≤ String.utf8Len (parts.flatMap fun part => part.1.toList ++ quoteTxt part.2.toList) := by
    induction parts with
    | nil => exact le_rfl
    | cons part later ih =>
      have here := chunk part.2
      simp only [List.flatMap_cons, String.utf8Len_append]
      omega
  have begin := chunk first
  unfold writeTxt
  rw [String.utf8ByteSize_ofList, String.utf8Len_append, String.utf8Len_append]
  omega

/-- What is written begins and ends with a quote. -/
theorem trim_writeTxt (first : String) (parts : List (String × String)) :
    Text.trim (writeTxt first parts) = writeTxt first parts := by
  have ends : ∃ middle, (writeTxt first parts).toList = middle ++ ['"'] := by
    unfold writeTxt quoteTxt
    rw [String.toList_ofList]
    rcases parts.eq_nil_or_concat with rfl | ⟨before, last, rfl⟩
    · exact ⟨'"' :: escapeTxt first.toList, by simp⟩
    · refine ⟨quoteTxt first.toList ++ (before.flatMap fun part => part.1.toList ++ quoteTxt part.2.toList)
        ++ last.1.toList ++ '"' :: escapeTxt last.2.toList, ?_⟩
      simp [quoteTxt]
  obtain ⟨middle, closed⟩ := ends
  have opened : (writeTxt first parts).toList.dropWhile Text.isWhitespace = (writeTxt first parts).toList := by
    unfold writeTxt quoteTxt
    rw [String.toList_ofList]
    rfl
  unfold Text.trim
  rw [opened, closed, List.rdropWhile_concat_neg _ _ _ (by decide), ← closed, String.ofList_toList]

/-- **Decoding inverts quoting**, however the text is cut into chunks and whatever white space stands between them. -/
theorem decodeDnsaddrTxtValue_writeTxt (text first : String) (parts : List (String × String))
    (chunks : text.toList = first.toList ++ parts.flatMap fun part => part.2.toList)
    (white : ∀ part ∈ parts, ∀ char ∈ part.1.toList, Text.isWhitespace char = true)
    (small : (writeTxt first parts).utf8ByteSize ≤ 4096) :
    decodeDnsaddrTxtValue (writeTxt first parts) = .ok text := by
  have fits := (utf8Len_writeTxt first parts).trans small
  have quoted : '"' ∈ (writeTxt first parts).toList := by
    unfold writeTxt quoteTxt
    simp
  have here : String.utf8Len ([] ++ first.toList) ≤ maxDnsaddrTxtBytes := by
    rw [String.utf8Len_append] at fits
    rw [List.nil_append]
    exact (Nat.le_add_right _ _).trans fits
  have within : ¬ (writeTxt first parts).utf8ByteSize > maxDnsaddrTxtBytes := not_lt.mpr small
  unfold decodeDnsaddrTxtValue
  simp only [trim_writeTxt, if_neg within, if_neg (not_not.mpr quoted)]
  rw [writeTxt, String.toList_ofList, decodeTxtLoop_quoteTxt _ _ here, List.nil_append, decodeTxtLoop_parts parts _ white fits, ← chunks]
  exact congrArg Except.ok (String.ofList_toList)

/-- Chunks with a quote, a backslash and spaces at their ends. -/
theorem decodeDnsaddrTxtValue_two_chunks : decodeDnsaddrTxtValue (writeTxt " a\"" [("", "\\b "), (" \t", "")])
    = .ok " a\"\\b " :=
  decodeDnsaddrTxtValue_writeTxt _ _ _ rfl (by simp [Text.isWhitespace]) (by simp [writeTxt, quoteTxt, escapeTxt]; decide)

/-! ### Answers -/

structure DnsJsonAnswer where
  recordType : UInt32
  data : String

/-- The loop of `dns_json_answers`, with the records kept so far. -/
def dnsJsonAnswersLoop (queryName : String) : List DnsJsonAnswer → List String → Except String (List String)
  | [], out => .ok out
  | answer :: rest, out =>
    if answer.recordType ≠ dnsTxtRecordType then dnsJsonAnswersLoop queryName rest out
    else if answer.data.utf8ByteSize > maxDnsaddrTxtBytes then
      .error s!"TXT record exceeded {maxDnsaddrTxtBytes} bytes for {queryName}"
    else do
      let text ← decodeDnsaddrTxtValue answer.data
      dnsJsonAnswersLoop queryName rest (if dnsaddrPrefix.toList <+: text.toList then out ++ [text] else out)

def dnsJsonAnswers (queryName : String) (answers : Option (List DnsJsonAnswer)) : Except String (List String) :=
  dnsJsonAnswersLoop queryName (answers.getD []) []

end P2pNet.Connectivity
