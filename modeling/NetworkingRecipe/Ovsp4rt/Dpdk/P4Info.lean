import NetworkingRecipe.P4Runtime.Messages

/-!
# The P4Info of the DPDK tests

The tables and actions of the P4Info file that the DPDK tests load, in its order. The
action profile and the package and type descriptions are left out, since no lookup reads
them, and so are aliases, annotations, and sizes.
-/

namespace NetworkingRecipe.Ovsp4rt.Dpdk

open P4Runtime

/-- The pipeline of the DPDK tests. -/
def dpdkP4Info : P4Info where
  tables :=
    [⟨⟨40763773, "linux_networking_control.vxlan_encap_mod_table"⟩,
       [⟨1, "vendormeta_mod_data_ptr", 24, .exact⟩],
       [20733968, 21257015]⟩,
     ⟨⟨43691980, "linux_networking_control.rif_mod_table"⟩,
       [⟨1, "local_metadata.rif_mod_map_id", 16, .exact⟩],
       [32436111, 21257015]⟩,
     ⟨⟨36439154, "linux_networking_control.neighbor_mod_table"⟩,
       [⟨1, "vendormeta_mod_data_ptr", 24, .exact⟩],
       [31671750, 21257015]⟩,
     ⟨⟨47484925, "linux_networking_control.ipv4_tunnel_term_table"⟩,
       [⟨1, "tunnel_type", 8, .exact⟩, ⟨2, "ipv4_src", 32, .exact⟩, ⟨3, "ipv4_dst", 32, .exact⟩],
       [32579284, 29238102]⟩,
     ⟨⟨44842501, "linux_networking_control.l2_fwd_rx_table"⟩,
       [⟨1, "dst_mac", 48, .exact⟩],
       [19169916, 29238102]⟩,
     ⟨⟨46049425, "linux_networking_control.l2_fwd_rx_with_tunnel_table"⟩,
       [⟨1, "dst_mac", 48, .exact⟩],
       [19169916, 29238102]⟩,
     ⟨⟨40240205, "linux_networking_control.l2_fwd_tx_table"⟩,
       [⟨1, "dst_mac", 48, .exact⟩],
       [19169916, 22384992, 29238102]⟩,
     ⟨⟨37894008, "linux_networking_control.nexthop_table"⟩,
       [⟨1, "local_metadata.nexthop_id", 16, .exact⟩],
       [31297949, 29238102]⟩,
     ⟨⟨37566509, "linux_networking_control.ipv4_table"⟩,
       [⟨1, "local_metadata.ipv4_dst_match", 32, .lpm⟩],
       [29883644, 29238102, 21257015]⟩,
     ⟨⟨41529896, "linux_networking_control.handle_rx_control_pkts_table"⟩,
       [⟨1, "istd.input_port", 32, .exact⟩],
       [31030905, 29238102]⟩,
     ⟨⟨49330316, "linux_networking_control.handle_tx_control_vlan_pkts_table"⟩,
       [⟨1, "istd.input_port", 32, .exact⟩, ⟨2, "local_metadata.vlan_id", 16, .exact⟩],
       [27571656, 29238102]⟩,
     ⟨⟨35677768, "linux_networking_control.handle_tx_control_pkts_table"⟩,
       [⟨1, "istd.input_port", 32, .exact⟩],
       [26888899, 31030905, 29238102]⟩]
  actions :=
    [⟨⟨21257015, "NoAction"⟩, []⟩,
     ⟨⟨29238102, "linux_networking_control.drop"⟩, []⟩,
     ⟨⟨20733968, "linux_networking_control.vxlan_encap"⟩,
       [⟨1, "src_addr", 32⟩, ⟨2, "dst_addr", 32⟩, ⟨3, "dst_port", 16⟩, ⟨4, "vni", 24⟩]⟩,
     ⟨⟨18904286, "linux_networking_control.vxlan_decap_outer_ipv4"⟩, []⟩,
     ⟨⟨32436111, "linux_networking_control.set_src_mac"⟩, [⟨1, "src_mac_addr", 48⟩]⟩,
     ⟨⟨31671750, "linux_networking_control.set_outer_mac"⟩, [⟨1, "dst_mac_addr", 48⟩]⟩,
     ⟨⟨32579284, "linux_networking_control.decap_outer_ipv4"⟩, [⟨1, "tunnel_id", 24⟩]⟩,
     ⟨⟨22384992, "linux_networking_control.set_tunnel"⟩, [⟨1, "tunnel_id", 24⟩, ⟨2, "dst_addr", 32⟩]⟩,
     ⟨⟨19169916, "linux_networking_control.l2_fwd"⟩, [⟨1, "port", 32⟩]⟩,
     ⟨⟨31297949, "linux_networking_control.set_nexthop"⟩,
       [⟨1, "router_interface_id", 16⟩, ⟨2, "neighbor_id", 24⟩, ⟨3, "egress_port", 32⟩]⟩,
     ⟨⟨29883644, "linux_networking_control.set_nexthop_id"⟩, [⟨1, "nexthop_id", 16⟩]⟩,
     ⟨⟨31030905, "linux_networking_control.set_control_dest"⟩, [⟨1, "port_id", 32⟩]⟩,
     ⟨⟨26888899, "linux_networking_control.push_vlan_fwd"⟩, [⟨1, "port", 32⟩, ⟨2, "vlan_tag", 16⟩]⟩,
     ⟨⟨27571656, "linux_networking_control.pop_vlan_fwd"⟩, [⟨1, "port", 32⟩]⟩]

end NetworkingRecipe.Ovsp4rt.Dpdk
