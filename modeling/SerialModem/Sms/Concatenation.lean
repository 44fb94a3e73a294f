import SerialModem.Library.CharBuffer
import SerialModem.Socket.Reception

/-!
# Received SMS messages

`sm_at_sms.c` passes received messages on as `#XSMS`.  The parts of a
concatenated message are collected in one buffer: the first part behind its
header at the start, every other one in a slot of its own.  When as many parts
were received as the message has, they are joined in place.

Writing outside the buffer is undefined: the handler then has no result.
-/

namespace SerialModem.Sms

open Library
open AtHost
open Socket (decimal)

def maxConcatenatedMessage : Nat := 10

def smSmsAtHeaderInfoMaxLen : Nat := 64

def smsMaxPayloadLenChars : Nat := 160

def smsMaxAddressLenChars : Nat := 20

structure SmsText (room : Nat) where
  text : List Byte
  noNul : ∀ byte, byte ∈ text → byte ≠ 0
  short : text.length ≤ room

/-- `struct sms_time`: two digits a field, and the time zone in quarters of an
hour. -/
structure SmsTime where
  year : Fin 100
  month : Fin 100
  day : Fin 100
  hour : Fin 100
  minute : Fin 100
  second : Fin 100
  timezone : Int
  timezoneLow : -128 ≤ timezone
  timezoneHigh : timezone ≤ 127

/-- `concatenated` of `struct sms_deliver_header`, if it is present. -/
structure SmsConcatenated where
  refNumber : UInt16
  totalMsgs : UInt8
  seqNumber : UInt8

/-- `struct sms_data` of a delivered message. -/
structure SmsData where
  time : SmsTime
  originatingAddress : SmsText smsMaxAddressLenChars
  payload : SmsText smsMaxPayloadLenChars

def twoDigits (value : Nat) : List Byte :=
  if value < 10 then 48 :: decimal value else decimal value

def signedTwoDigits (value : Int) : List Byte :=
  (if value < 0 then 45 else 43) :: twoDigits value.natAbs

def SmsTime.text (time : SmsTime) : List Byte :=
  twoDigits time.year ++ [45] ++ twoDigits time.month ++ [45] ++
    twoDigits time.day ++ [32] ++ twoDigits time.hour ++ [58] ++
    twoDigits time.minute ++ [58] ++ twoDigits time.second ++
    ascii " UTC" ++ signedTwoDigits ((time.timezone * 15).tdiv 60) ++ [58] ++
    twoDigits (time.timezone.natAbs * 15 % 60)

def SmsData.header (data : SmsData) : List Byte :=
  crlfStr ++ ascii "#XSMS: \"" ++ data.time.text ++ ascii "\",\"" ++
    data.originatingAddress.text ++ ascii "\",\""

def urcEnd : List Byte :=
  34 :: crlfStr

/-- `struct sm_sms_context`, without the handle of the SMS library. -/
structure SmsCtx where
  pipe : Option PipeId
  refNumber : UInt16
  totalMsgs : UInt8
  count : UInt8
  concatRspBuf : Option (CharBuffer Byte)
  cleanupWork : Bool

/-- What is passed to `urc_send_to`. -/
structure SmsUrc where
  pipe : Option PipeId
  text : List Byte
  deriving DecidableEq

def smsConcatClear (ctx : SmsCtx) : SmsCtx :=
  { pipe := ctx.pipe
    refNumber := 0
    totalMsgs := 0
    count := 0
    concatRspBuf := none
    cleanupWork := false }

def partSlot (index : Nat) : Nat :=
  smSmsAtHeaderInfoMaxLen + index * smsMaxPayloadLenChars

def concatMsgLen (totalMsgs : UInt8) : Nat :=
  smSmsAtHeaderInfoMaxLen + smsMaxPayloadLenChars * totalMsgs.toNat

/-- The assignments of `sms_concat_handle` when no message is in progress; `none`
stands for `goto done`. -/
def smsConcatBegin (calloc : Nat → Bool) (concatenated : SmsConcatenated)
    (ctx : SmsCtx) : Option SmsCtx :=
  if ctx.refNumber = 0 then
    if maxConcatenatedMessage < concatenated.totalMsgs.toNat then
      none
    else if calloc (concatMsgLen concatenated.totalMsgs) then
      some { ctx with
        refNumber := concatenated.refNumber
        concatRspBuf := some (CharBuffer.zeroed
          (concatMsgLen concatenated.totalMsgs)) }
    else
      none
  else
    some ctx

def smsStorePart (concatenated : SmsConcatenated) (data : SmsData)
    (buffer : CharBuffer Byte) : Option (CharBuffer Byte) :=
  if concatenated.seqNumber = 1 then
    buffer.snprintf 0 (concatMsgLen concatenated.totalMsgs) (data.header ++ data.payload.text)
  else
    buffer.snprintf (partSlot (concatenated.seqNumber.toNat - 1))
      (smsMaxPayloadLenChars + 1) data.payload.text

def smsJoinParts : Nat → Nat → CharBuffer Byte → Option (CharBuffer Byte)
  | 0, _, buffer => some buffer
  | count + 1, index, buffer =>
    (buffer.strncat (partSlot index) smsMaxPayloadLenChars).bind (smsJoinParts count (index + 1))

def smsJoin (totalMsgs : UInt8) (buffer : CharBuffer Byte) : Option (List Byte) :=
  (smsJoinParts (totalMsgs.toNat - 1) 1 buffer).bind fun joined =>
    (joined.strcat urcEnd).map fun complete =>
      CharBuffer.readFrom complete.contents 0 complete.size

/-- The part of `sms_concat_handle` that stores a part, counts it and sends the
message when it is the last one. -/
def smsConcatStore (concatenated : SmsConcatenated) (data : SmsData)
    (ctx : SmsCtx) : Option (SmsCtx × List SmsUrc) :=
  (ctx.concatRspBuf.bind (smsStorePart concatenated data)).bind fun buffer =>
    let ctx :=
      { ctx with concatRspBuf := some buffer, count := ctx.count + 1 }
    if ctx.count = ctx.totalMsgs then
      (smsJoin ctx.totalMsgs buffer).map fun text =>
        (smsConcatClear ctx, [⟨ctx.pipe, text⟩])
    else
      some ({ ctx with cleanupWork := true }, [])

/-- `sms_concat_handle`; `calloc` says whether so many bytes are granted. -/
def smsConcatHandle (calloc : Nat → Bool) (concatenated : SmsConcatenated)
    (data : SmsData) (ctx : SmsCtx) : Option (SmsCtx × List SmsUrc) :=
  let ctx :=
    if ctx.refNumber ≠ 0 ∧ ctx.refNumber ≠ concatenated.refNumber then
      smsConcatClear ctx
    else
      ctx
  match smsConcatBegin calloc concatenated ctx with
  | none => some (smsConcatClear ctx, [])
  | some ctx =>
    let ctx :=
      if ctx.totalMsgs = 0 then
        { ctx with totalMsgs := concatenated.totalMsgs }
      else
        ctx
    if ctx.totalMsgs ≠ concatenated.totalMsgs then
      some (smsConcatClear ctx, [])
    else if concatenated.seqNumber = 0 ∨ ctx.totalMsgs < concatenated.seqNumber then
      some (smsConcatClear ctx, [])
    else
      smsConcatStore concatenated data ctx

def smsCallback (calloc : Nat → Bool)
    (concatenated : Option SmsConcatenated) (data : SmsData) (ctx : SmsCtx) :
    Option (SmsCtx × List SmsUrc) :=
  match concatenated with
  | none =>
    some (ctx, [⟨ctx.pipe, data.header ++ data.payload.text ++ urcEnd⟩])
  | some concatenated => smsConcatHandle calloc concatenated data ctx

end SerialModem.Sms
