import CycleMiner.Settings

/-!
# A file of settings to start from

* `Settings.sample`   a text of settings with a comment for each of them.
-/

namespace CycleMiner.Settings

/-- the lines of a file of settings to start from -/
def sampleLines : List String :=
  ["# Cuckoo Miner Configuration",
   "",
   "# Number of solver threads (0 = auto-detect)",
   "worker_threads = 0",
   "# Graph size: 2^edge_bits nodes per partition",
   "edge_bits = " ++ toString Params.standard.edgeBits,
   "# Required cycle length",
   "proof_size = " ++ toString Params.standard.proofSize,
   "# Nonces searched per graph (default: 2^(edge_bits + 1))",
   "# easiness = 16777216",
   "# Seconds between statistics reports",
   "report_interval_secs = 15",
   "",
   "# Node mining configuration",
   "[node]",
   "rpc_url = \"http://127.0.0.1:10617\"",
   "rpc_user = \"rpcuser\"",
   "rpc_password = \"password\"",
   "# Output script paid by the coinbase (hex)",
   "payout_script = \"76a914000000000000000000000000000000000000000088ac\"",
   "# Extra coinbase input bytes (hex)",
   "# coinbase_script = \"2f637563636f6f2f\"",
   "# Version bits to vote for in every header",
   "# vote_bits = [1]",
   "retry_pause_secs = 10",
   "poll_interval_secs = 5",
   "request_timeout_secs = 30",
   "longpoll_timeout_secs = 600"]

def sample : String := String.join (sampleLines.map (· ++ "\n"))

end CycleMiner.Settings
