namespace MeterGateway

inductive Metric
  | sessionsOpened : Metric
  | sessionsClosed : Metric
  | authAccepted : Metric
  | authRejected : Metric
  | framesSent : Metric
  | responsesMatched : Metric
  | responsesUnmatched : Metric
  | checksumMismatches : Metric
  | requestsTimedOut : Metric
  | requestsFailed : Metric
  | pollsSkipped : Metric
  | payloadsForwarded : Metric
  | rpcSuccess : Metric
  | rpcFailure : Metric
  deriving DecidableEq

namespace Metric

def all : List Metric :=
  [sessionsOpened, sessionsClosed, authAccepted, authRejected, framesSent, responsesMatched,
    responsesUnmatched, checksumMismatches, requestsTimedOut, requestsFailed, pollsSkipped,
    payloadsForwarded, rpcSuccess, rpcFailure]

def name : Metric → String
  | sessionsOpened => "sessions_opened"
  | sessionsClosed => "sessions_closed"
  | authAccepted => "auth_accepted"
  | authRejected => "auth_rejected"
  | framesSent => "frames_sent"
  | responsesMatched => "responses_matched"
  | responsesUnmatched => "responses_unmatched"
  | checksumMismatches => "checksum_mismatches"
  | requestsTimedOut => "requests_timed_out"
  | requestsFailed => "requests_failed"
  | pollsSkipped => "polls_skipped"
  | payloadsForwarded => "payloads_forwarded"
  | rpcSuccess => "rpc_success"
  | rpcFailure => "rpc_failure"

end Metric

end MeterGateway
