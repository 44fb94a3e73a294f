import SerialModem.AtHost.TerminatorMatching
import SerialModem.AtHost.FlushTermination
import SerialModem.AtHost.InactivityFlush
import SerialModem.AtHost.Datagram
import SerialModem.AtHost.LineRejection
import SerialModem.AtHost.Grammar
import SerialModem.AtHost.EchoLaw
import SerialModem.AtHost.FinalResultFormat
import SerialModem.AtHost.MessageQueue
import SerialModem.AtHost.LockAccounting
import SerialModem.AtHost.IdleItems
import SerialModem.AtHost.InactivityDelivery
import SerialModem.AtHost.LineBuffer
import SerialModem.Socket.Selection
import SerialModem.Socket.Notification
import SerialModem.Socket.Table
import SerialModem.Socket.Completion
import SerialModem.Socket.RequestSerialisation
import SerialModem.Socket.HeaderIndependence
import SerialModem.Sms.Reassembly
import SerialModem.Coap.ManualPull
import SerialModem.Coap.BlockUpload
import SerialModem.Coap.Lifetime
import SerialModem.Coap.PullRouting
import SerialModem.AtClient.Commands
import SerialModem.AtClient.Transmission
import SerialModem.Uart.Transmission
import SerialModem.Uart.ReceivedBytes
import SerialModem.DtrUart.Buffers
import SerialModem.DtrUart.Transmission
import SerialModem.Dfu.ImageAgreement
import SerialModem.Dfu.WritePrefix
import SerialModem.Ppp.CgdataAnswer
import SerialModem.Fota.RejectedStart
import SerialModem.NrfCloud.Ownership
import SerialModem.AtClient.Monitor
import SerialModem.Icmp.PingTime
import SerialModem.AtClient.References
import SerialModem.Uart.PipeOpening
import SerialModem.Cmux.Start
import SerialModem.AtHost.TimeLimit
import SerialModem.Ncellmeas.NeighborDecoding
import SerialModem.Ncellmeas.GciDecoding
import SerialModem.Ncellmeas.CellConsistency
import SerialModem.Mqtt.Publishing
